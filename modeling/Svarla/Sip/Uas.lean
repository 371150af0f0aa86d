import Mathlib
import Svarla.Lib.Map
import Svarla.Lib.Run

/-!
# The SIP user agent server

The UAS answers the INVITE of a telephony provider with a dialog, and keeps the dialogs by the session
and by the Call-ID, in two maps. A dialog is an object that both maps refer to, and here a number. The
handling of one message is one step. What comes of the SDP of an offer is a parameter (`Sdp`): the
codec, and the SRTP session with its crypto line.

A request and a response are what the text of the message has. Every tag that is generated is made of a
reading of the clock (`Clock`), of which there are several in the handling of one message.
-/

namespace Svarla.Sip

open Svarla.Lib

/-! ## Tags -/

/-- `unicode.IsSpace`. -/
def isSpace (c : Char) : Bool :=
  c.toNat ∈ [9, 10, 11, 12, 13, 32, 0x85, 0xA0, 0x1680, 0x2028, 0x2029, 0x202F, 0x205F, 0x3000] ∨
    (0x2000 ≤ c.toNat ∧ c.toNat ≤ 0x200A)

/-- `strings.TrimSpace`. -/
def trimSpace (s : List Char) : List Char :=
  ((s.dropWhile isSpace).reverse.dropWhile isSpace).reverse

/-- `strings.TrimPrefix`, where there is one. -/
def afterPrefix (beginning text : List Char) : Option (List Char) :=
  if beginning <+: text then some (text.drop beginning.length) else none

/-- `extractTag`. -/
def extractTag (header : String) : String :=
  .ofList (((header.toList.splitOn ';').findSome? fun part =>
    afterPrefix "tag=".toList (trimSpace part)).getD [])

/-- A reading of the clock, in nanoseconds, by its number. -/
abbrev Clock := Nat → Nat

/-- `generateTag`, at a time: `%x` of its lower 32 bits. -/
def generateTag (now : Nat) : String := .ofList (Nat.toDigits 16 (now % 2 ^ 32))

/-! ## Messages -/

/-- A request, as it is parsed. -/
structure Request where
  method : String
  requestURI : String
  callID : String
  /-- `From`. -/
  sender : String
  /-- `To`. -/
  recipient : String
  via : List String
  cseq : String
  contact : String
  body : List UInt8
  deriving DecidableEq, Repr

structure Response where
  statusCode : Nat
  reasonPhrase : String
  via : List String
  sender : String
  recipient : String
  callID : String
  cseq : String
  extraHeaders : List (String × String)
  body : List UInt8
  deriving DecidableEq, Repr

/-- A BYE, with the tags of its `From` and `To`. -/
structure Bye where
  requestURI : String
  fromTag : String
  toTag : String
  callID : String
  cseq : Nat
  deriving DecidableEq, Repr

/-- `BuildResponse`. -/
def buildResponse (req : Request) (statusCode : Nat) (reasonPhrase : String) (body : List UInt8)
    (extraHeaders : List (String × String)) (now : Nat) : Response where
  statusCode
  reasonPhrase
  via := req.via
  sender := req.sender
  recipient :=
    if 200 ≤ statusCode ∧ ¬ "tag=".toList <:+: req.recipient.toList then
      req.recipient ++ ";tag=mb-" ++ generateTag now
    else req.recipient
  callID := req.callID
  cseq := req.cseq
  extraHeaders
  body

/-- `ExtractSessionIDFromURI`. -/
def extractSessionID (uri : String) : String :=
  let u := ((afterPrefix "sip:".toList uri.toList).or (afterPrefix "sips:".toList uri.toList)).getD
    uri.toList
  .ofList (u.takeWhile (· ≠ '@'))

/-- `extractContactURI`. -/
def extractContactURI (contact : String) : String :=
  let rest := contact.toList.dropWhile (· ≠ '<')
  if '<' ∈ contact.toList ∧ '>' ∈ rest then .ofList ((rest.drop 1).takeWhile (· ≠ '>')) else contact

/-! ## Offers and answers -/

structure Codec where
  name : String
  payloadType : Nat
  clockRate : Nat
  channels : Nat
  deriving DecidableEq, Repr

/-- What the UAS takes from an offer. -/
structure SdpOffer where
  ip : String
  port : Nat
  codecs : List Codec
  deriving DecidableEq, Repr

/-- An `SRTPSession`, by its keys. -/
structure SrtpSession where
  localKey : List UInt8
  remoteKey : List UInt8
  deriving DecidableEq, Repr

/-- What comes of the crypto attributes of an offer. -/
inductive Sdes
  /-- There are none. -/
  | plain
  /-- They are not supported. -/
  | notAcceptable
  | failed
  | negotiated (session : SrtpSession) (cryptoLine : String)
  deriving DecidableEq, Repr

structure SdpAnswer where
  codec : Codec
  localIP : String
  localPort : Nat
  useSRTP : Bool
  cryptoLine : String
  deriving DecidableEq, Repr

/-- The handling of SDP; the keys are new at every time. -/
structure Sdp where
  parseSDP : List UInt8 → Option SdpOffer
  negotiateCodec : SdpOffer → Option Codec
  negotiateSDES : List UInt8 → Nat → Sdes
  generateSDPAnswer : SdpAnswer → List UInt8

/-! ## Dialogs -/

inductive DialogState
  | early
  | confirmed
  | terminated
  deriving DecidableEq, Repr

structure Dialog where
  sessionID : String
  callID : String
  state : DialogState
  localTag : String
  remoteTag : String
  remoteAddr : String
  remoteURI : String
  localCSeq : Nat
  negotiatedCodec : Option Codec
  remoteIP : String
  remotePort : Nat
  createdAt : Nat
  transport : String
  srtpSession : Option SrtpSession
  deriving DecidableEq, Repr

/-- `NewDialog`. -/
def newDialog (sessionID callID remoteTag remoteAddr transport : String) (clock : Clock) : Dialog where
  sessionID
  callID
  state := .early
  localTag := "mb-" ++ generateTag (clock 0)
  remoteTag
  remoteAddr
  remoteURI := ""
  localCSeq := 0
  negotiatedCodec := none
  remoteIP := ""
  remotePort := 0
  createdAt := clock 1
  transport
  srtpSession := none

/-- What the UAS sends. -/
inductive Sent
  /-- A response, for a dialog or for none. -/
  | response (dialog : Option Nat) (response : Response) (remoteAddr transport : String)
  | bye (dialog : Nat) (bye : Bye) (remoteAddr transport : String)
  deriving DecidableEq, Repr

inductive UasEvent
  | providerConnected (sessionID : String) (codec : Codec) (remoteIP : String) (remotePort : Nat)
      (srtpSession : Option SrtpSession)
  | providerDisconnected (sessionID reason : String)
  deriving DecidableEq, Repr

structure UasConfig where
  port : Nat
  mediaPort : Nat
  publicIP : String

/-- `UAS`, with all dialogs there were. -/
structure Uas where
  dialogs : List Dialog
  bySession : Map String Nat
  byCallID : Map String Nat
  sent : List Sent
  events : List UasEvent

/-- What the UAS is to do. -/
inductive UasInput
  /-- A request, of a session that is in the session store or not. -/
  | message (msg : Request) (remoteAddr transport : String) (known : Bool) (clock : Clock)
  /-- `SendBye`. -/
  | sendBye (sessionID : String)
  /-- `Shutdown`, for one of the dialogs. -/
  | shutdown (dialog : Nat)

namespace Uas

def init : Uas := ⟨[], ∅, ∅, [], []⟩

variable (config : UasConfig) (sdp : Sdp)

/-- `Add`. -/
def add (s : Uas) (d : Dialog) : Uas :=
  { s with
    dialogs := s.dialogs ++ [d]
    bySession := s.bySession.insert d.sessionID s.dialogs.length
    byCallID := s.byCallID.insert d.callID s.dialogs.length }

/-- `Remove`. -/
def remove (s : Uas) (sessionID : String) : Uas :=
  match (s.bySession.lookup sessionID).bind (s.dialogs[·]?) with
  | some d =>
    { s with bySession := s.bySession.erase sessionID, byCallID := s.byCallID.erase d.callID }
  | none => s

/-- A dialog changes. -/
def modify (s : Uas) (i : Nat) (f : Dialog → Dialog) : Uas :=
  { s with dialogs := s.dialogs.modify i f }

def setTerminated (s : Uas) (i : Nat) : Uas := s.modify i ({ · with state := .terminated })

def respond (s : Uas) (dialog : Option Nat) (response : Response) (remoteAddr transport : String) :
    Uas :=
  { s with sent := s.sent ++ [.response dialog response remoteAddr transport] }

def emit (s : Uas) (event : UasEvent) : Uas := { s with events := s.events ++ [event] }

/-- The dialog of a Call-ID, with its number. -/
def getByCallID (s : Uas) (callID : String) : Option (Nat × Dialog) :=
  (s.byCallID.lookup callID).bind fun i => s.dialogs[i]?.map fun d => (i, d)

def getBySession (s : Uas) (sessionID : String) : Option (Nat × Dialog) :=
  (s.bySession.lookup sessionID).bind fun i => s.dialogs[i]?.map fun d => (i, d)

/-- The headers of a 200 to an INVITE. -/
def contactHeaders (sessionID transport : String) : List (String × String) :=
  [("Contact", "<sip:" ++ sessionID ++ "@" ++ config.publicIP ++ ":" ++ toString config.port ++
      ";transport=" ++ transport ++ ">"),
    ("Content-Type", "application/sdp")]

/-- What an INVITE is answered with: an error, or its offer, codec and SRTP session. -/
def accept (msg : Request) (known : Bool) (clock : Clock) :
    Except (Nat × String) (SdpOffer × Codec × Option (SrtpSession × String)) :=
  if known = false then .error (404, "Not Found")
  else if msg.body = [] then .error (400, "Bad Request")
  else
    match sdp.parseSDP msg.body with
    | none => .error (400, "Bad Request")
    | some offer =>
      match sdp.negotiateCodec offer with
      | none => .error (488, "Not Acceptable Here")
      | some codec =>
        match sdp.negotiateSDES msg.body (clock 0) with
        | .plain => .ok (offer, codec, none)
        | .notAcceptable => .error (488, "Not Acceptable Here")
        | .failed => .error (500, "Internal Server Error")
        | .negotiated session cryptoLine => .ok (offer, codec, some (session, cryptoLine))

/-- The dialog that an INVITE makes. -/
def inviteDialog (msg : Request) (remoteAddr transport : String) (offer : SdpOffer) (codec : Codec)
    (srtp : Option (SrtpSession × String)) (clock : Clock) : Dialog :=
  let uri := extractContactURI msg.contact
  { newDialog (extractSessionID msg.requestURI) msg.callID (extractTag msg.sender) remoteAddr transport
      clock with
    negotiatedCodec := some codec
    remoteIP := offer.ip
    remotePort := offer.port
    remoteURI := if uri = "" then msg.requestURI else uri
    srtpSession := srtp.map Prod.fst }

/-- `handleReInvite`. -/
def handleReInvite (s : Uas) (msg : Request) (i : Nat) (d : Dialog) (remoteAddr transport : String)
    (clock : Clock) : Uas :=
  let error := fun statusCode reason =>
    s.respond (some i) (buildResponse msg statusCode reason [] [] (clock 2)) remoteAddr transport
  if msg.body = [] then error 400 "Bad Request"
  else
    match sdp.parseSDP msg.body with
    | none => error 400 "Bad Request"
    | some offer =>
      match sdp.negotiateCodec offer with
      | none => error 488 "Not Acceptable Here"
      | some codec =>
        let s := s.modify i ({ · with
          negotiatedCodec := some codec, remoteIP := offer.ip, remotePort := offer.port })
        let answer := sdp.generateSDPAnswer ⟨codec, config.publicIP, config.mediaPort, false, ""⟩
        s.respond (some i)
          (buildResponse msg 200 "OK" answer (contactHeaders config d.sessionID transport) (clock 2))
          remoteAddr transport

/-- What is done with an INVITE that is accepted: the dialog, the answer and the event. -/
def acceptInvite (s : Uas) (msg : Request) (remoteAddr transport : String) (offer : SdpOffer)
    (codec : Codec) (srtp : Option (SrtpSession × String)) (clock : Clock) : Uas :=
  let sessionID := extractSessionID msg.requestURI
  let i := s.dialogs.length
  let s := s.respond none (buildResponse msg 100 "Trying" [] [] (clock 2)) remoteAddr transport
  let s := s.add (inviteDialog msg remoteAddr transport offer codec srtp clock)
  let answer := sdp.generateSDPAnswer ⟨codec, config.publicIP, config.mediaPort, srtp.isSome,
    (srtp.map Prod.snd).getD ""⟩
  let s := s.respond (some i)
    (buildResponse msg 200 "OK" answer (contactHeaders config sessionID transport) (clock 2))
    remoteAddr transport
  let s := s.modify i ({ · with state := .confirmed })
  s.emit (.providerConnected sessionID codec offer.ip offer.port (srtp.map Prod.fst))

/-- The dialog that an INVITE is within. -/
def confirmedDialog (s : Uas) (callID : String) : Option (Nat × Dialog) :=
  (s.getByCallID callID).filter fun d => d.2.state = .confirmed

/-- `handleInvite`. -/
def handleInvite (s : Uas) (msg : Request) (remoteAddr transport : String) (known : Bool)
    (clock : Clock) : Uas :=
  let error := fun statusCode reason =>
    s.respond none (buildResponse msg statusCode reason [] [] (clock 2)) remoteAddr transport
  if extractSessionID msg.requestURI = "" then error 404 "Not Found"
  else
    match s.confirmedDialog msg.callID with
    | some (i, d) => s.handleReInvite config sdp msg i d remoteAddr transport clock
    | none =>
      match accept sdp msg known clock with
      | .error (statusCode, reason) => error statusCode reason
      | .ok (offer, codec, srtp) =>
        s.acceptInvite config sdp msg remoteAddr transport offer codec srtp clock

/-- `handleBye`, and `handleCancel`. -/
def handleEnd (s : Uas) (msg : Request) (remoteAddr transport reason : String) (clock : Clock) : Uas :=
  match s.getByCallID msg.callID with
  | none =>
    s.respond none (buildResponse msg 481 "Call/Transaction Does Not Exist" [] [] (clock 2)) remoteAddr
      transport
  | some (i, d) =>
    let s := s.respond (some i) (buildResponse msg 200 "OK" [] [] (clock 2)) remoteAddr transport
    ((s.setTerminated i).remove d.sessionID).emit (.providerDisconnected d.sessionID reason)

/-- `handleMessage`, of a request that is allowed. -/
def handleMessage (s : Uas) (msg : Request) (remoteAddr transport : String) (known : Bool)
    (clock : Clock) : Uas :=
  match msg.method with
  | "INVITE" => s.handleInvite config sdp msg remoteAddr transport known clock
  | "BYE" => s.handleEnd msg remoteAddr transport "bye" clock
  | "ACK" => s
  | "CANCEL" => s.handleEnd msg remoteAddr transport "cancelled" clock
  | _ =>
    s.respond none (buildResponse msg 405 "Method Not Allowed" []
      [("Allow", "INVITE, ACK, BYE, CANCEL")] (clock 2)) remoteAddr transport

/-- The next BYE of a dialog. -/
def byeRequest (d : Dialog) : Bye where
  requestURI := if d.remoteURI = "" then "sip:" ++ d.sessionID ++ "@" ++ d.remoteAddr else d.remoteURI
  fromTag := d.localTag
  toTag := d.remoteTag
  callID := d.callID
  cseq := d.localCSeq + 1

/-- `sendBye`. -/
def bye (s : Uas) (i : Nat) (d : Dialog) : Uas :=
  { s.modify i ({ · with localCSeq := d.localCSeq + 1 }) with
    sent := s.sent ++ [.bye i (byeRequest d) d.remoteAddr d.transport] }

/-- `SendBye`. -/
def sendBye (s : Uas) (sessionID : String) : Uas :=
  match (s.getBySession sessionID).filter fun d => d.2.state = .confirmed with
  | none => s
  | some (i, d) => ((s.bye i d).setTerminated i).remove sessionID

/-- `Shutdown`, for one dialog. -/
def shutdownDialog (s : Uas) (i : Nat) (d : Dialog) : Uas :=
  (if d.state = .confirmed then s.bye i d else s).setTerminated i

/-- What the UAS does. -/
def step (s : Uas) : UasInput → Option Uas
  | .message msg remoteAddr transport known clock =>
    some (s.handleMessage config sdp msg remoteAddr transport known clock)
  | .sendBye sessionID => some (s.sendBye sessionID)
  | .shutdown i => s.dialogs[i]?.map (s.shutdownDialog i)

/-! ## Dialogs that are found -/

variable {s : Uas} {c : String} {i : Nat} {d : Dialog}

theorem getByCallID_eq_some :
    s.getByCallID c = some (i, d) ↔ s.byCallID.lookup c = some i ∧ s.dialogs[i]? = some d := by
  simp only [getByCallID, Option.bind_eq_some_iff, Option.map_eq_some_iff, Prod.mk.injEq]
  constructor
  · rintro ⟨j, hj, e, he, rfl, rfl⟩
    exact ⟨hj, he⟩
  · rintro ⟨hi, hd⟩
    exact ⟨i, hi, d, hd, rfl, rfl⟩

theorem dialog_of_getBySession {sessionID : String} (h : s.getBySession sessionID = some (i, d)) :
    s.dialogs[i]? = some d := by
  obtain ⟨j, -, hj⟩ := Option.bind_eq_some_iff.mp h
  obtain ⟨e, he, heq⟩ := Option.map_eq_some_iff.mp hj
  cases heq
  exact he

/-- The dialog of an INVITE within one. -/
theorem dialog_of_confirmedDialog (h : s.confirmedDialog c = some (i, d)) : s.dialogs[i]? = some d := by
  obtain ⟨hget, -⟩ := Option.filter_eq_some_iff.mp h
  exact (getByCallID_eq_some.mp hget).2

end Uas

end Svarla.Sip

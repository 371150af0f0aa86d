import Svarla.Numbers.Normalize

/-!
# The webhook router

`registerWebhookRouter` with its middleware (`webhook-auth-middleware.ts`) and its endpoint names
(`webhook-endpoint-aliases.ts`): what comes of a request, and what the router has other services do for
it. It is set up as `server.ts` does, with all services. The fields of a query and of a body are texts,
where they are there at all; a body that is not there has none to read, and the handler throws.

`jwt.verify`, `JSON.parse` of `custom_data`, and what the services answer are parameters (`World`). The
fields of a token that are only logged are left out.
-/

namespace Svarla.Webhooks

open Svarla.Numbers

/-! ## Texts -/

def startsWith (s start : String) : Bool := start.toList.isPrefixOf s.toList

/-- A number with a plus before it. -/
def withPlus (s : String) : String := if startsWith s "+" then s else "+" ++ s

/-- `isDialableNumber`. -/
def isDialableNumber (value : String) : Bool :=
  value ≠ "" && (startsWith value "+" || value.toList.all Char.isDigit)

/-- A caller's number, with a plus where it can be called. -/
def normalizeCaller (s : String) : String := if isDialableNumber s then withPlus s else s

/-- The test of `handleEvent` for a number that was revealed. -/
def looksLikeNumber (s : String) : Bool :=
  let digits := if startsWith s "+" then s.toList.drop 1 else s.toList
  digits.all Char.isDigit && 5 ≤ digits.length

/-- What is there, and not empty. -/
def truthy (s : Option String) : Option String := s.filter (· ≠ "")

/-! ## Requests and providers -/

/-- The fields of a query or of a body. -/
abbrev Fields := List (String × String)

def Fields.get (fields : Fields) (name : String) : Option String := fields.lookup name

structure Request where
  method : String
  providerId : String
  /-- The rest of the path. -/
  endpoint : String
  ip : Option String
  authorization : Option String
  query : Fields
  body : Option Fields
  deriving DecidableEq, Repr

/-- `request.body`; a GET has none. -/
def Request.parsedBody (r : Request) : Option Fields := if r.method = "GET" then none else r.body

inductive ProviderType
  | vonage
  | elks46
  | modemGateway
  | dummy
  deriving DecidableEq, Repr

/-- The value of `webhook_ip_allowlist`. -/
inductive AllowlistValue
  | entries (values : List String)
  | text (value : String)
  | other
  deriving DecidableEq, Repr

structure ProviderConfig where
  applicationId : Option String
  signatureSecret : Option String
  apiSecret : Option String
  /-- `webhook_validation`; what is no Boolean is none. -/
  webhookValidation : Option Bool
  webhookIpAllowlist : AllowlistValue
  websocketNumber : Option String
  deriving DecidableEq, Repr

structure ProviderEntry where
  type : ProviderType
  disabled : Bool
  hasInstance : Bool
  config : ProviderConfig
  deriving DecidableEq, Repr

/-- What the router has the services do. -/
inductive Effect
  | recordCall (phoneNumber : String) (providerNumber : Option String) (callType providerCallId : String)
  | broadcastHistory (callId phoneNumber providerNumber : String)
  | broadcastBlocked (callId phoneNumber providerNumber : String)
  | sendWakeSignals (id : String)
  | handleInbound (providerId providerCallId fromNumber toNumber : String)
  | patchSession (callId providerCallId : String)
  | endCall (callId : String)
  | setRevealedNumber (providerCallId phoneNumber : String)
  | receiveMessage (messageId fromNumber toNumber text : String) (timestamp : Option String)
  | createNotification (messageId fromNumber toNumber : String) (label : Option String) (preview : String)
  /-- `emitEvent` of the provider, with its listeners. -/
  | smsStatus (messageId status : String)
  | incomingSms (messageId fromNumber toNumber text : String)
  | incomingCall (callId fromNumber toNumber : String)
  | callState (callId status : String)
  deriving DecidableEq, Repr

/-- The body of a reply. -/
inductive ReplyBody
  | empty
  | error (error : String)
  /-- The message that the number takes no calls. -/
  | talk
  | answer (fromNumber toNumber : String) (sipUri eventUrl : Option String)
  | outbound (toNumber fromNumber : String) (eventUrl : Option String)
  | connect (destination callerid whenhangup : String)
  | status (status : String)
  | reject
  deriving DecidableEq, Repr

structure Reply where
  status : Nat
  body : ReplyBody
  deriving DecidableEq, Repr

/-- What the router is given: the registry, the packages and what the services answer. -/
structure World where
  getProvider : String → Option ProviderEntry
  /-- `jwt.verify` of a token with a secret, with its `application_id`; none if it throws. -/
  verify : String → String → Option (Option String)
  /-- The `from` and `to` of a `custom_data`; none if it is not parsed. -/
  parseCustomData : String → Option (Option String × Option String)
  /-- `Date.now()`, as a text. -/
  now : String
  webhookBaseUrl : Option String
  isInboundBlocked : String → Bool
  /-- Whether `recordCall` succeeds. -/
  records : Bool
  /-- How many devices there are to wake. -/
  devices : Nat
  /-- The call and the SIP URI; none if it throws. -/
  handleInbound : String → String → String → String → Option (String × String)
  getCallIdByProviderCallId : String → Option String
  /-- Whether `receiveMessage` succeeds. -/
  receives : Bool
  label : String → Option String
  /-- The SIP URI that `makeCall` left for a call. -/
  pendingSipUri : String → Option String

/-! ## Who may -/

/-- `VonageVerifyReason`. -/
inductive VonageVerifyReason
  | ok
  | noAuthHeader
  | notBearer
  | noSecret
  | signatureInvalid
  | appIdMismatch
  deriving DecidableEq, Repr

/-- `verifyVonageWebhookJwtDetailed`. -/
def verifyVonageWebhookJwt (W : World) (r : Request) (secret applicationId : String) :
    VonageVerifyReason :=
  match truthy r.authorization with
  | none => .noAuthHeader
  | some header =>
    if ¬ startsWith header "Bearer " then .notBearer
    else if secret = "" then .noSecret
    else
      match W.verify (String.ofList (header.toList.drop 7)) secret with
      | none => .signatureInvalid
      | some decoded =>
        if applicationId ≠ "" ∧ decoded ≠ some applicationId then .appIdMismatch else .ok

/-- `ELKS46_DEFAULT_WEBHOOK_IPS`. -/
def elks46DefaultWebhookIps : List String :=
  ["176.10.154.199", "85.24.146.132", "185.39.146.243", "2001:9b0:2:902::199"]

/-- A dotted quad, as the pattern for mapped addresses has it. -/
def isDottedQuad (s : List Char) : Bool :=
  let groups := s.splitOn '.'
  groups.length = 4 && groups.all fun group =>
    group.all Char.isDigit && 1 ≤ group.length && group.length ≤ 3

/-- `normalizeIp`. -/
def normalizeIp (ip : String) : List Char :=
  let trimmed := (trim ip.toList).map Char.toLower
  let mapped := "::ffff:".toList
  if mapped.isPrefixOf trimmed && isDottedQuad (trimmed.drop mapped.length) then
    trimmed.drop mapped.length
  else trimmed

/-- `verifyElks46WebhookOrigin`. -/
def verifyElks46WebhookOrigin (requestIp : Option String) (allowlist : List String) : Bool :=
  match truthy requestIp with
  | none => false
  | some ip =>
    let list := if allowlist = [] then elks46DefaultWebhookIps else allowlist
    list.any fun entry => normalizeIp entry = normalizeIp ip

/-- `parseElks46IpAllowlist`. -/
def parseElks46IpAllowlist : AllowlistValue → List String
  | .entries values =>
    (values.map fun v => String.ofList (trim v.toList)).filter (· ≠ "")
  | .text value =>
    ((value.toList.splitOnP fun c => isBlank c || c = ',').filter (· ≠ [])).map String.ofList
  | .other => []

def ProviderConfig.signingSecret (config : ProviderConfig) : String :=
  ((truthy config.signatureSecret).or (truthy config.apiSecret)).getD ""

def ProviderConfig.validationEnabled (config : ProviderConfig) : Bool :=
  config.webhookValidation ≠ some false

/-- The checks before a request goes to its handler: the reply that refuses it, if any. -/
def refusal (W : World) (entry : ProviderEntry) (r : Request) : Option Reply :=
  match entry.type with
  | .vonage =>
    if entry.config.validationEnabled && entry.config.signingSecret ≠ "" then
      if verifyVonageWebhookJwt W r entry.config.signingSecret (entry.config.applicationId.getD "") ≠ .ok ∧
          r.method ≠ "GET" then
        some ⟨401, .error "Webhook signature verification failed"⟩
      else none
    else none
  | .elks46 =>
    if entry.config.validationEnabled &&
        !verifyElks46WebhookOrigin r.ip (parseElks46IpAllowlist entry.config.webhookIpAllowlist) then
      some ⟨403, .error "Webhook origin not allowed"⟩
    else none
  | _ => none

/-! ## Endpoints -/

/-- `ALIAS_GROUPS`, by their canonical keys. -/
def aliasGroups : List (List String) :=
  [["inbound-sms", "sms-incoming", "incoming-sms"], ["sms-status"],
    ["answer", "voice-answer", "voice-start"], ["event", "voice-event"]]

/-- `canonicalKey`. -/
def canonicalKey (endpoint : String) : String :=
  String.ofList ((trim endpoint.toList).map fun c => if c = '_' then '-' else c.toLower)

/-- `getAcceptedEndpoints`: what the instance lists, and what its type accepts besides. -/
def getAcceptedEndpoints : ProviderType → List String
  | .vonage => ["answer", "event", "inbound-sms", "sms-status"]
  | .elks46 => ["voice_start", "sms_incoming", "voice_event"]
  | .modemGateway | .dummy => []

/-- `resolveWebhookEndpoint`. -/
def resolveWebhookEndpoint (requested : String) (supported : List String) : Option String :=
  if requested = "" then none
  else if requested ∈ supported then some requested
  else
    match aliasGroups.find? (canonicalKey requested ∈ ·) with
    | none => none
    | some group => supported.find? fun endpoint => canonicalKey endpoint ∈ group

/-! ## Handlers -/

def eventUrl (W : World) (providerId : String) : Option String :=
  W.webhookBaseUrl.map fun base => base ++ "/webhooks/" ++ providerId ++ "/event"

/-- `recordBlockedCallAndNotify`. -/
def recordBlockedCallAndNotify (W : World) (fromNumber toNumber callId : String) : List Effect :=
  let caller := if fromNumber = "" then "Unknown" else fromNumber
  [.recordCall caller (some toNumber) "BLOCKED" callId] ++
    (if W.records then [] else [.broadcastHistory callId caller toNumber]) ++
    (if 0 < W.devices then [.sendWakeSignals callId] else []) ++
    [.broadcastBlocked callId caller toNumber]

/-- An inbound call, which `handleAnswer` blocks or hands to the orchestrator. -/
def answerInbound (W : World) (providerId providerCallId callId fromNumber toNumber : String) :
    Reply × List Effect :=
  let normalizedTo := withPlus toNumber
  let normalizedFrom := normalizeCaller fromNumber
  if W.isInboundBlocked normalizedTo then
    (⟨200, .talk⟩, recordBlockedCallAndNotify W normalizedFrom normalizedTo callId)
  else
    let effects := [.handleInbound providerId providerCallId normalizedFrom normalizedTo]
    match W.handleInbound providerId providerCallId normalizedFrom normalizedTo with
    | some (_, sipUri) =>
      (⟨200, .answer fromNumber toNumber (some sipUri) (eventUrl W providerId)⟩, effects)
    | none => (⟨200, .answer fromNumber toNumber none none⟩, effects)

/-- What Fastify replies where a handler throws. -/
def thrown : Reply × List Effect := (⟨500, .error "Internal Server Error"⟩, [])

/-- `handleAnswer`. -/
def handleAnswer (W : World) (r : Request) : Reply × List Effect :=
  if r.method = "GET" then
    answerInbound W r.providerId ((r.query.get "uuid").getD "") ("blocked-" ++ W.now)
      ((r.query.get "from").getD "") ((r.query.get "to").getD "")
  else
    match r.parsedBody with
    | none => thrown
    | some body =>
      let fromNumber := (body.get "from").getD ""
      let toNumber := (body.get "to").getD ""
      if body.get "endpoint_type" = some "phone" ∨
          truthy (body.get "custom_data") = none ∧ truthy (body.get "from_user") = none then
        answerInbound W r.providerId ((body.get "uuid").getD "")
          ((body.get "uuid").getD ("blocked-" ++ W.now)) fromNumber toNumber
      else
        let custom := ((truthy (body.get "custom_data")).bind W.parseCustomData).getD (none, none)
        (⟨200, .outbound ((truthy custom.2).getD toNumber) ((truthy custom.1).getD fromNumber)
          (eventUrl W r.providerId)⟩, [])

/-- The statuses of a Vonage call that has ended. -/
def terminalStatuses : List String :=
  ["completed", "failed", "busy", "unanswered", "rejected", "cancelled", "timeout"]

/-- `handleEvent`. -/
def handleEvent (W : World) (r : Request) : Reply × List Effect :=
  match r.parsedBody with
  | none => thrown
  | some body =>
    let direction := body.get "direction"
    let status := body.get "status"
    let uuid := truthy (body.get "uuid")
    let toNumber := truthy (body.get "to")
    let isInternalSdkLeg := toNumber.any fun destination => startsWith destination "device-"
    let isBlockedInbound := !isInternalSdkLeg && direction = some "inbound" &&
      toNumber.any fun destination => W.isInboundBlocked (withPlus destination)
    let ended :=
      if !isInternalSdkLeg && !isBlockedInbound && status.any (· ∈ terminalStatuses) then
        ((uuid.bind W.getCallIdByProviderCallId).bind fun callId => truthy (some callId)).toList.map .endCall
      else []
    let revealed :=
      if direction = some "inbound" ∧ status = some "completed" ∧ isInternalSdkLeg = false then
        match uuid, truthy (body.get "from") with
        | some uuid, some caller =>
          if looksLikeNumber caller then [.setRevealedNumber uuid (withPlus caller)] else []
        | _, _ => []
      else []
    let recorded :=
      if direction = some "outbound" ∧ status = some "ringing" ∧ isInternalSdkLeg = false then
        match uuid, toNumber with
        | some uuid, some destination =>
          if startsWith destination "sip" then []
          else [.recordCall (withPlus destination) ((truthy (body.get "from")).map withPlus) "OUTGOING" uuid]
        | _, _ => []
      else []
    (⟨200, .empty⟩, ended ++ revealed ++ recorded)

/-- `normalizeInboundNumber`, of a text. -/
def inboundNumber (value : String) : String := String.ofList (normalizeInboundNumber value.toList)

/-- `handleInboundSms`. -/
def handleInboundSms (W : World) (r : Request) : Reply × List Effect :=
  let reply : Reply := if W.receives then ⟨200, .empty⟩ else ⟨500, .empty⟩
  if r.method = "GET" then
    let rawFrom := (r.query.get "msisdn").getD ""
    if rawFrom = "" then (⟨400, .empty⟩, [])
    else
      (reply, [.receiveMessage ((r.query.get "messageId").getD ("legacy-" ++ W.now))
        (inboundNumber rawFrom) (withPlus ((r.query.get "to").getD "")) ((r.query.get "text").getD "")
          (truthy (r.query.get "message-timestamp"))])
  else
    match r.parsedBody with
    | none => thrown
    | some body =>
      let fromNumber := inboundNumber ((body.get "from").getD "")
      let toNumber := withPlus ((body.get "to").getD "")
      let messageId := (body.get "message_uuid").getD ""
      let text := (body.get "text").getD ""
      if messageId = "" ∨ fromNumber = "" ∨ fromNumber = "+" then (⟨400, .empty⟩, [])
      else
        (reply, .receiveMessage messageId fromNumber toNumber text (truthy (body.get "timestamp")) ::
          if W.receives then
            [.createNotification messageId fromNumber toNumber (W.label toNumber)
              (String.ofList (text.toList.take 160))]
          else [])

/-- `mapVonageSmsStatus`. -/
def mapVonageSmsStatus (status : String) : Option String :=
  if status = "delivered" then some "DELIVERED"
  else if status ∈ ["failed", "rejected", "undeliverable"] then some "FAILED"
  else none

/-- `handleSmsStatus`, with `processSmsStatusEvent` of the provider. -/
def handleSmsStatus (r : Request) : Reply × List Effect :=
  match r.parsedBody with
  | none => thrown
  | some body =>
    match truthy (body.get "message_uuid"), truthy (body.get "status") with
    | some messageId, some status =>
      (⟨200, .empty⟩, (mapVonageSmsStatus status).toList.map (.smsStatus messageId))
    | _, _ => (⟨200, .empty⟩, [])

/-- A caller as the handler for `voice_start` has it. -/
def elks46Caller (caller : String) : String :=
  if caller = "" then "anonymous" else normalizeCaller caller

/-- The handler for `voice_start`, and that of the provider for a call that goes out. -/
def handleVoiceStart (W : World) (entry : ProviderEntry) (r : Request) : Reply × List Effect :=
  match r.parsedBody with
  | none => thrown
  | some body =>
    let callId := (body.get "callid").getD ""
    let caller := (body.get "from").getD ""
    let toNumber := (body.get "to").getD ""
    let whenhangup := (W.webhookBaseUrl.getD "") ++ "/webhooks/" ++ r.providerId ++ "/voice_event"
    if body.get "direction" = some "incoming" then
      let effects := [.handleInbound r.providerId callId (elks46Caller caller) (withPlus toNumber)]
      match W.handleInbound r.providerId callId (elks46Caller caller) (withPlus toNumber) with
      | none => (⟨200, .reject⟩, effects)
      | some (internalCallId, sipUri) =>
        match truthy entry.config.websocketNumber with
        | some wsNumber =>
          (⟨200, .connect wsNumber caller whenhangup⟩, effects ++ [.patchSession internalCallId callId])
        | none => (⟨200, .connect sipUri caller whenhangup⟩, effects)
    else
      match truthy entry.config.websocketNumber with
      | some wsNumber => (⟨200, .connect wsNumber (if caller = "" then toNumber else caller) ""⟩, [])
      | none => (⟨200, .connect ((W.pendingSipUri callId).getD toNumber) caller ""⟩, [])

/-- `mapElks46StatusToCallState`. -/
def mapElks46StatusToCallState (status : String) : Option String :=
  if status = "ongoing" then some "ANSWERED"
  else if status = "success" then some "COMPLETED"
  else if status = "busy" then some "BUSY"
  else if status = "failed" ∨ status = "no-answer" then some "FAILED"
  else none

/-- `handleVoiceEvent` of the provider. -/
def handleVoiceEvent (r : Request) : Reply × List Effect :=
  match r.parsedBody with
  | none => (⟨500, .error "Internal webhook handler error"⟩, [])
  | some body =>
    match truthy ((body.get "callid").or (body.get "id")),
      truthy ((body.get "status").or (body.get "state")) with
    | some callId, some status =>
      (⟨200, .empty⟩, (mapElks46StatusToCallState status).toList.map (.callState callId))
    | _, _ => (⟨200, .empty⟩, [])

/-- `handleSmsIncoming` of the provider. -/
def handleSmsIncoming (r : Request) : Reply × List Effect :=
  match r.parsedBody with
  | none => (⟨500, .error "Internal webhook handler error"⟩, [])
  | some body =>
    match truthy (body.get "id"), truthy (body.get "from"), truthy (body.get "to") with
    | some messageId, some caller, some destination =>
      (⟨200, .empty⟩,
        [.incomingSms messageId (inboundNumber caller) destination ((body.get "message").getD "")])
    | _, _, _ => (⟨200, .empty⟩, [])

/-- The handler of an endpoint. -/
def dispatch (W : World) (entry : ProviderEntry) (r : Request) (endpoint : String) :
    Reply × List Effect :=
  match entry.type with
  | .vonage =>
    if endpoint = "answer" then handleAnswer W r
    else if endpoint = "event" then handleEvent W r
    else if endpoint = "inbound-sms" then handleInboundSms W r
    else handleSmsStatus r
  | .elks46 =>
    if endpoint = "voice_start" then handleVoiceStart W entry r
    else if endpoint = "voice_event" then handleVoiceEvent r
    else handleSmsIncoming r
  | .modemGateway | .dummy => (⟨200, .status "accepted"⟩, [])

/-- The route `/webhooks/:providerId/*`: the reply, and what is done besides. -/
def webhook (W : World) (r : Request) : Reply × List Effect :=
  match W.getProvider r.providerId with
  | none => (⟨404, .error "Provider not found"⟩, [])
  | some entry =>
    if entry.disabled then (⟨503, .error "Provider is disabled"⟩, [])
    else if ¬ entry.hasInstance then (⟨503, .error "Provider is unavailable"⟩, [])
    else
      match refusal W entry r with
      | some reply => (reply, [])
      | none =>
        match resolveWebhookEndpoint r.endpoint (getAcceptedEndpoints entry.type) with
        | none => (⟨404, .error "Webhook endpoint not found"⟩, [])
        | some endpoint => dispatch W entry r endpoint

end Svarla.Webhooks

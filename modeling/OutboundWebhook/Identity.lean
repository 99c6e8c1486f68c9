import OutboundWebhook.Reference
import Mathlib.Data.List.GetD
import Mathlib.Tactic.Tauto

/-!
# Delivery identities and signatures

A delivery is named by 48 hexadecimal digits of a digest, and a request is signed by the digits of
a code over three joined texts. This module shows that nothing is lost on the way: the digits
determine the octets, and each joined text determines its parts.

## Splitting without a length

Neither preimage says how long its parts are.

* `deliveryIdPreimage` joins a URL and an event id with a NUL. The URL is any text, so the split
  is found from the right: an event id contains no NUL.
* `signedBytes` joins an id, a time and a payload with dots. The time may contain a dot and the
  payload is any octets, so the split is found from the left: an id has a fixed length, and a time
  ends at its first `Z`.

## Main results

* `delivery_identities`
* `signature_unambiguous`
-/

namespace OutboundWebhook

variable {P : Platform}

/-! ### Hexadecimal digits -/

theorem getD_mem_hexAlphabet (n : ℕ) : hexAlphabet.getD n '0' ∈ hexAlphabet := by
  rcases lt_or_ge n hexAlphabet.length with hn | hn
  · rw [List.getD_eq_getElem _ _ hn]
    exact List.getElem_mem hn
  · rw [List.getD_eq_default _ _ hn]
    decide

theorem hexChars_subset (value : Bytes) : hexChars value ⊆ hexAlphabet := by
  intro c hc
  obtain ⟨byte, -, hmem⟩ := List.mem_flatMap.mp hc
  simp only [List.mem_cons, List.not_mem_nil, or_false] at hmem
  rcases hmem with rfl | rfl <;> exact getD_mem_hexAlphabet _

/-- The digits are ASCII, visible, and hexadecimal. -/
theorem hexAlphabet_class {c : Char} (hc : c ∈ hexAlphabet) :
    IsAscii c ∧ IsVisibleAscii c.val.toUInt8 ∧ isAsciiHexdigit c.val.toUInt8 := by
  have hall : hexAlphabet.all fun c =>
      IsAscii c ∧ IsVisibleAscii c.val.toUInt8 ∧ isAsciiHexdigit c.val.toUInt8 := by
    decide +kernel
  rw [List.all_eq_true] at hall
  exact of_decide_eq_true (hall c hc)

theorem getD_hexAlphabet_inj {n m : ℕ} (hn : n < 16) (hm : m < 16)
    (h : hexAlphabet.getD n '0' = hexAlphabet.getD m '0') : n = m := by
  have hall : ∀ n < 16, ∀ m < 16, hexAlphabet.getD n '0' = hexAlphabet.getD m '0' → n = m := by
    decide +kernel
  exact hall n hn m hm h

theorem hexChars_cons (byte : UInt8) (value : Bytes) :
    hexChars (byte :: value)
      = hexAlphabet.getD (byte >>> 4).toNat '0' :: hexAlphabet.getD (byte &&& 0x0f).toNat '0'
        :: hexChars value := rfl

/-- An octet is its two halves. -/
theorem toNat_halves (byte : UInt8) :
    (byte >>> 4).toNat = byte.toNat / 16 ∧ (byte &&& 0x0f).toNat = byte.toNat % 16 := by
  constructor
  · rw [UInt8.toNat_shiftRight, Nat.shiftRight_eq_div_pow]
    rfl
  · rw [UInt8.toNat_and]
    exact Nat.and_two_pow_sub_one_eq_mod byte.toNat 4

/-- **The digits determine the octets.** -/
theorem hexChars_inj {value other : Bytes} (h : hexChars value = hexChars other) :
    value = other := by
  induction value generalizing other with
  | nil =>
    cases other with
    | nil => rfl
    | cons byte other => exact nomatch h
  | cons byte value ih =>
    cases other with
    | nil => exact nomatch h
    | cons byte' other =>
      rw [hexChars_cons, hexChars_cons, List.cons.injEq, List.cons.injEq] at h
      obtain ⟨hhigh, hlow, hrest⟩ := h
      obtain ⟨hq, hr⟩ := toNat_halves byte
      obtain ⟨hq', hr'⟩ := toNat_halves byte'
      have hbyte := byte.toNat_lt
      have hbyte' := byte'.toNat_lt
      have hquotient := getD_hexAlphabet_inj (by omega) (by omega) hhigh
      have hremainder := getD_hexAlphabet_inj (by omega) (by omega) hlow
      have hsame : byte = byte' := by
        rw [← UInt8.toNat_inj]
        omega
      rw [hsame, ih hrest]

theorem hex_inj {value other : Bytes} : hex value = hex other ↔ value = other := by
  constructor
  · intro h
    exact hexChars_inj (String.ofList_injective h)
  · rintro rfl
    rfl

theorem length_hexChars (value : Bytes) : (hexChars value).length = 2 * value.length := by
  induction value with
  | nil => rfl
  | cons byte value ih =>
    rw [hexChars_cons, List.length_cons, List.length_cons, List.length_cons, ih]
    omega

/-- An even number of digits is the digits of a part. -/
theorem take_hexChars (n : ℕ) (value : Bytes) :
    (hexChars value).take (2 * n) = hexChars (value.take n) := by
  induction n generalizing value with
  | zero => rfl
  | succ n ih =>
    cases value with
    | nil => rfl
    | cons byte value =>
      rw [List.take_succ_cons, hexChars_cons, hexChars_cons, ← ih,
        show 2 * (n + 1) = 2 * n + 1 + 1 by omega, List.take_succ_cons, List.take_succ_cons]

/-! ### Delivery ids -/

theorem not_mem_asBytes_of_validEventName {value : String} (h : validEventName value) :
    0 ∉ asBytes value := by
  intro hmem
  simp only [validEventName, Bool.and_eq_true, List.all_eq_true] at h
  have := h.2 0 hmem
  exact absurd this (by decide)

/-- **A preimage says which endpoint and which event it is of.** -/
theorem deliveryIdPreimage_inj {endpointUrl endpointUrl' eventId eventId' : String}
    (h : validEventName eventId) (h' : validEventName eventId')
    (heq : deliveryIdPreimage endpointUrl eventId = deliveryIdPreimage endpointUrl' eventId') :
    endpointUrl = endpointUrl' ∧ eventId = eventId' := by
  obtain ⟨hurl, hevent⟩ := append_separator_inj (not_mem_asBytes_of_validEventName h)
    (not_mem_asBytes_of_validEventName h') heq
  exact ⟨asBytes_inj.mp hurl, asBytes_inj.mp hevent⟩

/-- An id shows the first 24 octets of the digest. -/
theorem stableDeliveryId_eq (endpointUrl eventId : String) :
    stableDeliveryId P endpointUrl eventId
      = "wh_" ++ hex ((P.sha256 (deliveryIdPreimage endpointUrl eventId)).take 24) := by
  rw [stableDeliveryId, hex, ← take_hexChars]

theorem stableDeliveryId_inj {endpointUrl endpointUrl' eventId eventId' : String} :
    stableDeliveryId P endpointUrl eventId = stableDeliveryId P endpointUrl' eventId' ↔
      (P.sha256 (deliveryIdPreimage endpointUrl eventId)).take 24
        = (P.sha256 (deliveryIdPreimage endpointUrl' eventId')).take 24 := by
  rw [stableDeliveryId_eq, stableDeliveryId_eq, ← hex_inj, ← asBytes_inj, asBytes_append,
    asBytes_append, List.append_right_inj, asBytes_inj]

/-- The octets of the digits. -/
theorem asBytes_hex (value : Bytes) :
    asBytes (hex value) = (hexChars value).map fun c => c.val.toUInt8 :=
  asBytes_ofList fun _ hc => (hexAlphabet_class (hexChars_subset value hc)).1

/-- **What is generated is accepted.** -/
theorem validDeliveryId_stableDeliveryId (endpointUrl eventId : String) :
    validDeliveryId (stableDeliveryId P endpointUrl eventId) = true := by
  have hdigest := P.length_sha256 (deliveryIdPreimage endpointUrl eventId)
  have hstart : asBytes "wh_" = [0x77, 0x68, 0x5f] := by decide +kernel
  rw [stableDeliveryId_eq, validDeliveryId, asBytes_append, asBytes_hex, hstart]
  generalize P.sha256 (deliveryIdPreimage endpointUrl eventId) = digest at hdigest
  have hlength : (hexChars (digest.take 24)).length = 48 := by
    rw [length_hexChars, List.length_take, hdigest]
    rfl
  have hdigits : ∀ c ∈ hexChars (digest.take 24), isAsciiHexdigit c.val.toUInt8 = true :=
    fun c hc => (hexAlphabet_class (hexChars_subset _ hc)).2.2
  simpa [hlength] using hdigits

/-- An id that passes the check can be looked up. -/
theorem adminRequest_of_validDeliveryId {ε : Type} {plugin : OutboundWebhookPlugin P}
    {caller : Option String} {prepared : PreparedWebhook P plugin.config} {deliveryId : String}
    (hcaller : plugin.config.adminAllowed caller) (hactive : plugin.active = some prepared)
    (hid : validDeliveryId deliveryId) (forbidden invalidDelivery : ε)
    (runtime : RuntimeFailure → ε) :
    adminRequest plugin caller deliveryId forbidden invalidDelivery runtime = .ok () := by
  rw [adminRequest, hcaller, hid, OutboundWebhookPlugin.prepared, hactive]
  rfl

variable (P) in
/-- **Delivery identities.** Every id is well formed, so the delivery an enqueue creates can be
inspected and replayed. The hashed texts separate the events, and two ids agree exactly when the
first 192 bits of their digests do. -/
theorem delivery_identities :
    (∀ endpointUrl eventId, validEventName eventId →
      validDeliveryId (stableDeliveryId P endpointUrl eventId) = true) ∧
    (∀ (plugin : OutboundWebhookPlugin P) producer now request delivery,
      newDelivery plugin producer now request = .ok delivery →
      ∀ (db : Db) row, db.delivery delivery.deliveryId = some row →
      ∀ (admin : OutboundWebhookPlugin P) prepared operator, admin.active = some prepared →
        admin.config.adminAllowed operator →
        inspectDelivery admin operator delivery.deliveryId db
            = .pending (.inspecting (decodeDelivery row)) db ∧
          replayDelivery admin operator delivery.deliveryId db
            = .pending (.replaying (decodeDelivery row)) db) ∧
    (∀ endpointUrl endpointUrl' eventId eventId', validEventName eventId →
      validEventName eventId' →
      deliveryIdPreimage endpointUrl eventId = deliveryIdPreimage endpointUrl' eventId' →
      endpointUrl = endpointUrl' ∧ eventId = eventId') ∧
    ∀ endpointUrl endpointUrl' eventId eventId',
      stableDeliveryId P endpointUrl eventId = stableDeliveryId P endpointUrl' eventId' ↔
        (P.sha256 (deliveryIdPreimage endpointUrl eventId)).take 24
          = (P.sha256 (deliveryIdPreimage endpointUrl' eventId')).take 24 := by
  refine ⟨fun endpointUrl eventId _ => validDeliveryId_stableDeliveryId endpointUrl eventId, ?_,
    fun _ _ _ _ => deliveryIdPreimage_inj, fun _ _ _ _ => stableDeliveryId_inj⟩
  intro plugin producer now request delivery hnew db row hrow admin prepared operator hactive
    hoperator
  have hid : validDeliveryId delivery.deliveryId = true := by
    rw [(enqueued_of_newDelivery hnew).deliveryId]
    exact validDeliveryId_stableDeliveryId _ _
  have hload : loadDelivery db delivery.deliveryId = some (decodeDelivery row) := by
    rw [loadDelivery, hrow]
    rfl
  constructor
  · rw [inspectDelivery, adminRequest_of_validDeliveryId hoperator hactive hid, hload]
  · rw [replayDelivery, adminRequest_of_validDeliveryId hoperator hactive hid, hload]

/-! ### Signatures -/

/-- **The signed octets determine the three texts.** -/
theorem signedBytes_inj {deliveryId deliveryId' timestamp timestamp' : String}
    {payload payload' : Bytes} (hid : validDeliveryId deliveryId)
    (hid' : validDeliveryId deliveryId') (htime : IsRfc3339Utc timestamp)
    (htime' : IsRfc3339Utc timestamp')
    (h : signedBytes deliveryId timestamp payload = signedBytes deliveryId' timestamp' payload') :
    deliveryId = deliveryId' ∧ timestamp = timestamp' ∧ payload = payload' := by
  have hlength : (asBytes deliveryId).length = (asBytes deliveryId').length := by
    simp only [validDeliveryId, Bool.and_eq_true, beq_iff_eq] at hid hid'
    rw [hid.1.1, hid'.1.1]
  obtain ⟨body, hbody, hends⟩ := htime.exists_body
  obtain ⟨body', hbody', hends'⟩ := htime'.exists_body
  simp only [signedBytes, hends, hends', List.append_assoc, List.cons_append,
    List.nil_append] at h
  -- the id ends at its length, and the time at its `Z`
  obtain ⟨hids, hrest⟩ := List.append_inj h hlength
  obtain ⟨htimes, hpayload⟩ := append_cons_inj hbody hbody' (List.cons.inj hrest).2
  refine ⟨asBytes_inj.mp hids, asBytes_inj.mp ?_, (List.cons.inj hpayload).2⟩
  rw [hends, hends', htimes]

theorem isRfc3339Utc_of_formatTime {t : OffsetDateTime} {timestamp : String}
    (h : formatTime P t = .ok timestamp) : IsRfc3339Utc timestamp := by
  unfold formatTime at h
  split at h
  · rename_i text htext
    rw [Except.ok.injEq] at h
    exact P.formatRfc3339_shape t timestamp (h ▸ htext)
  · exact nomatch h

/-- The keyed code does not collide on two messages. -/
def Platform.MacSeparates (P : Platform) (key message other : Bytes) : Prop :=
  ∀ mac, P.hmacSha256 key = some mac → mac message = mac other → message = other

variable (P) in
/-- **A signature is of one delivery, one time and one payload.** The signed octets determine all
three, the digits determine the code, and so one signature is valid for two triples only by a
collision of the keyed code. -/
theorem signature_unambiguous :
    (∀ deliveryId deliveryId' timestamp timestamp' payload payload',
      validDeliveryId deliveryId → validDeliveryId deliveryId' → IsRfc3339Utc timestamp →
      IsRfc3339Utc timestamp' →
      signedBytes deliveryId timestamp payload = signedBytes deliveryId' timestamp' payload' →
      deliveryId = deliveryId' ∧ timestamp = timestamp' ∧ payload = payload') ∧
    (∀ t timestamp, formatTime P t = .ok timestamp → IsRfc3339Utc timestamp) ∧
    (∀ code code', hex code = hex code' → code = code') ∧
    ∀ key deliveryId deliveryId' timestamp timestamp' payload payload' signature,
      validDeliveryId deliveryId → validDeliveryId deliveryId' → IsRfc3339Utc timestamp →
      IsRfc3339Utc timestamp' →
      P.MacSeparates key (signedBytes deliveryId timestamp payload)
        (signedBytes deliveryId' timestamp' payload') →
      signPayload P key deliveryId timestamp payload = .ok signature →
      signPayload P key deliveryId' timestamp' payload' = .ok signature →
      deliveryId = deliveryId' ∧ timestamp = timestamp' ∧ payload = payload' := by
  refine ⟨fun _ _ _ _ _ _ => signedBytes_inj, fun _ _ => isRfc3339Utc_of_formatTime,
    fun _ _ => hex_inj.mp, ?_⟩
  intro key deliveryId deliveryId' timestamp timestamp' payload payload' signature hid hid' htime
    htime' hseparates hsigned hsigned'
  unfold signPayload at hsigned hsigned'
  cases hmac : P.hmacSha256 key with
  | none =>
    rw [hmac] at hsigned
    exact nomatch hsigned
  | some mac =>
    rw [hmac, Except.ok.injEq] at hsigned hsigned'
    have hcode := hex_inj.mp (hsigned.trans hsigned'.symm)
    exact signedBytes_inj hid hid' htime htime' (hseparates mac hmac hcode)

/-- The first order is signed at two times. The key separates the two messages, and so the
signatures differ. -/
theorem signature_unambiguous_first :
    ∃ signature signature',
      reference.MacSeparates firstOrder.prepared.signingKey
        (signedBytes firstOrder.delivery.deliveryId "1970-01-01T00:00:00Z"
          firstOrder.delivery.payloadSnapshot)
        (signedBytes firstOrder.delivery.deliveryId "1970-01-01T00:00:01Z"
          firstOrder.delivery.payloadSnapshot) ∧
      signPayload reference firstOrder.prepared.signingKey firstOrder.delivery.deliveryId
        "1970-01-01T00:00:00Z" firstOrder.delivery.payloadSnapshot = .ok signature ∧
      signPayload reference firstOrder.prepared.signingKey firstOrder.delivery.deliveryId
        "1970-01-01T00:00:01Z" firstOrder.delivery.payloadSnapshot = .ok signature' ∧
      signature ≠ signature' := by
  have hid : validDeliveryId firstOrder.delivery.deliveryId = true := by decide +kernel
  have htime : formatTime reference 0 = .ok "1970-01-01T00:00:00Z" := by decide +kernel
  have htime' : formatTime reference ⟨1000000000, by decide⟩ = .ok "1970-01-01T00:00:01Z" := by
    decide +kernel
  have hseparates : reference.MacSeparates firstOrder.prepared.signingKey
      (signedBytes firstOrder.delivery.deliveryId "1970-01-01T00:00:00Z"
        firstOrder.delivery.payloadSnapshot)
      (signedBytes firstOrder.delivery.deliveryId "1970-01-01T00:00:01Z"
        firstOrder.delivery.payloadSnapshot) := by
    rintro mac ⟨⟩ hsame
    exact absurd hsame (by decide +kernel)
  refine ⟨_, _, hseparates, rfl, rfl, ?_⟩
  intro hsame
  obtain ⟨-, htimes, -⟩ := (signature_unambiguous reference).2.2.2 _ _ _ _ _ _ _ _ hid hid
    (isRfc3339Utc_of_formatTime htime) (isRfc3339Utc_of_formatTime htime') hseparates rfl
    (congrArg Except.ok hsame.symm)
  exact absurd htimes (by decide)

end OutboundWebhook

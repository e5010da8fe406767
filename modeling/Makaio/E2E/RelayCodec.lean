import Makaio.E2E.MessageCrypto
import Makaio.Foundations.OrderedMap

set_option autoImplicit false

/-!
# The codec of the relay transport

The relay transport (`e2e-relay-client-transport.ts`) encrypts whole messages, but for the control
messages of the relay, which a frozen registry names.  A response to a control request is not encrypted
either.  To tell these responses the codec keeps one map of the correlation ids of the control requests
that it encoded or decoded, from which it prunes what is too old or too much.

## Main definitions

* `isRelayControlBusMessage` — the control messages (`relay-control-envelope.ts`).
* `encryptRelayEnvelope`, `decryptRelayEnvelope` — whole messages encrypted
  (`e2e-relay-envelope.ts`).
* `RelayIds`, `pruneRelayControlIds` — the map of ids.
* `encode`, `decode`, `canEncode` — the codec.

## Main results

* `get?_of_prune`, `prune_prune` — pruning drops entries, and drops none when it is
  repeated.
-/

namespace Makaio.E2E

open Foundations

/-! ### Control messages -/

/-- A frozen registry of the control messages of a relay. -/
structure RelayControlRegistry where
  isControlEvent : String → String → Bool
  isControlRequest : String → String → Bool

/-- The string that a value has under a key. -/
def stringMember (key : String) (value : Json) : Option String := (value.member? key).bind Json.str?

variable (registry : RelayControlRegistry)

def isControlEventMessage (candidate : Json) : Bool :=
  match stringMember "namespace" candidate, stringMember "subject" candidate with
  | some ns, some subject => registry.isControlEvent ns subject &&
      (stringMember "messageId" candidate).isSome && (candidate.member? "payload").isSome
  | _, _ => false

def isControlRequestMessage (candidate : Json) : Bool :=
  match stringMember "namespace" candidate, stringMember "subject" candidate with
  | some ns, some subject => registry.isControlRequest ns subject &&
      (stringMember "messageId" candidate).isSome && (stringMember "correlationId" candidate).isSome &&
      (candidate.member? "payload").isSome
  | _, _ => false

variable (message : Json)

def isRelayControlBusMessage : Bool :=
  if stringMember "type" message = some "event" then isControlEventMessage registry message
  else if stringMember "type" message = some "request" then isControlRequestMessage registry message
  else false

def isRelayControlEnvelopeMessage : Bool :=
  stringMember "type" message = some "relay-control" &&
    (match message.member? "v" with
      | some (.num n) => n = 1
      | _ => false) &&
    (message.member? "payload").any (isRelayControlBusMessage registry)

def createRelayControlEnvelope : Json :=
  .obj [("type", .str "relay-control"), ("v", .num 1), ("payload", message)]

/-- The correlation id of a request. -/
def requestId : Option String :=
  if stringMember "type" message = some "request" then stringMember "correlationId" message else none

/-- The correlation id of a response; a value that has one is what `isPlainResponse` asks for. -/
def responseId : Option String :=
  if stringMember "type" message = some "response" then stringMember "correlationId" message else none

def isSubscriptionControlMessage : Bool :=
  stringMember "type" message = some "subscribe" || stringMember "type" message = some "unsubscribe"

/-- The acknowledgement of a subscription. -/
def isRelaySubscriptionAck : Bool :=
  stringMember "type" message = some "subscription-ack" && (stringMember "ackId" message).isSome

/-! ### Encrypted messages -/

variable {Key : Type} (cipher : AuthenticatedCipher Key) (format : NumberFormat)

def encryptRelayEnvelope (sessionKey : Key) (nonce : List UInt8) (message : Json) : Json :=
  .obj [("type", .str "e2e-relay-envelope"),
    ("payload", .str (sealText cipher format sessionKey nonce message)), ("e2e", metadata nonce)]

def isRelayEnvelopeMessage (message : Json) : Bool :=
  stringMember "type" message = some "e2e-relay-envelope" &&
    (stringMember "payload" message).isSome &&
    (match message.member? "e2e" with
      | some e2e => (stringMember "nonce" e2e).isSome && (match e2e.member? "v" with
          | some (.num _) => true
          | _ => false)
      | none => false)

/-- `decryptRelayEnvelope`; `none` when it throws. -/
def decryptRelayEnvelope (sessionKey : Key) (envelope : Json) : Option Json :=
  (((envelope.member? "e2e").bind (stringMember "nonce")).bind Base64Url.fromBase64Url).bind fun nonce =>
    (stringMember "payload" envelope).bind fun payload => openText cipher format sessionKey nonce payload

/-! ### Correlation ids -/

/-- The correlation ids of control requests, with the times at which they were tracked. -/
abbrev RelayIds := OrderedMap String ℕ

/-- `RELAY_CONTROL_RESPONSE_TTL_MS`. -/
def relayControlResponseTtlMs : ℕ := 5 * 60 * 1000

/-- `RELAY_CONTROL_RESPONSE_MAX_ENTRIES`. -/
def relayControlResponseMaxEntries : ℕ := 2048

/-- Whether an entry is too old. -/
def isExpired (now : ℕ) (entry : String × ℕ) : Bool := entry.2 + relayControlResponseTtlMs < now

/-- The entries that are not too old. -/
def dropExpired (now : ℕ) (ids : RelayIds) : RelayIds :=
  (ids.entries.filter (isExpired now)).foldl (fun ids entry => ids.delete entry.1) ids

/-- The loop that evicts the oldest entries while there are too many; it stops at an empty id. -/
def evictOldest : ℕ → RelayIds → RelayIds
  | 0, ids => ids
  | fuel + 1, ids =>
    if relayControlResponseMaxEntries < ids.entries.length then
      match ids.keys.head? with
      | some oldest => if oldest = "" then ids else evictOldest fuel (ids.delete oldest)
      | none => ids
    else ids

/-- `pruneRelayControlIds`; the loop runs at most once for each entry. -/
def pruneRelayControlIds (now : ℕ) (ids : RelayIds) : RelayIds :=
  evictOldest (dropExpired now ids).entries.length (dropExpired now ids)

def trackRelayControlResponseId (now : ℕ) (id : String) (ids : RelayIds) : RelayIds :=
  pruneRelayControlIds now ((ids.delete id).set id now)

/-! ### The codec -/

/-- `canEncodeRelayMessage`. -/
def canEncode (sessionKey : Option Key) (ids : RelayIds) (message : Json) : Bool :=
  if isRelayControlBusMessage registry message then true
  else if (responseId message).any ids.has then true
  else if sessionKey.isNone && (isSubscriptionControlMessage message || isRelaySubscriptionAck message)
    then true
  else sessionKey.isSome

/-- `JSON.stringify`, which throws for a message with a `bigint` or a cycle in it. -/
def stringify (serializes : Bool) (value : Json) : Option Json := if serializes then some value else none

/-- `encode`: the ids after the call, and the value whose JSON text is returned; `none` when it throws.  A
message that cannot be serialized is given by what is read of it. -/
def encode (now : ℕ) (sessionKey : Option Key) (nonce : List UInt8) (ids : RelayIds) (message : Json)
    (serializes : Bool) : RelayIds × Option Json :=
  if isRelayControlBusMessage registry message then
    (match requestId message with
      | some id => trackRelayControlResponseId now id ids
      | none => ids, stringify serializes (createRelayControlEnvelope message))
  else
    let ids := pruneRelayControlIds now ids
    match (responseId message).filter ids.has with
    | some id => (ids.delete id, stringify serializes message)
    | none =>
      match sessionKey with
      | none => (ids, if isSubscriptionControlMessage message || isRelaySubscriptionAck message then
          stringify serializes message else none)
      | some sessionKey =>
        (ids, stringify serializes (encryptRelayEnvelope cipher format sessionKey nonce message))

/-- `decode`: the ids after the call, and the message that is returned; `none` when it throws. -/
def decode (now : ℕ) (sessionKey : Option Key) (ids : RelayIds) (message : Json) :
    RelayIds × Option Json :=
  if isRelayControlEnvelopeMessage registry message then
    (match (message.member? "payload").bind requestId with
      | some id => trackRelayControlResponseId now id ids
      | none => ids, message.member? "payload")
  else
    let ids := pruneRelayControlIds now ids
    match (responseId message).filter ids.has with
    | some id => (ids.delete id, some message)
    | none =>
      match sessionKey with
      | none => (ids, if isRelaySubscriptionAck message then some message else none)
      | some sessionKey => (ids, if isRelayEnvelopeMessage message then
          decryptRelayEnvelope cipher format sessionKey message else none)

/-! ### Pruning -/

variable {ids : RelayIds}
variable {fuel now : ℕ} {id : String}

/-- What is left after eviction was there. -/
private lemma get?_of_evictOldest {time : ℕ} (h : (evictOldest fuel ids).get? id = some time) :
    ids.get? id = some time := by
  induction fuel generalizing ids with
  | zero => exact h
  | succ fuel ih =>
    rw [evictOldest] at h
    split at h
    · split at h
      · split at h
        · exact h
        · have hdelete := ih h
          rw [OrderedMap.get?_delete] at hdelete
          split at hdelete
          · cases hdelete
          · exact hdelete
      · exact h
    · exact h

/-- An id that is left after pruning was there, and is not too old. -/
lemma get?_of_prune {time : ℕ} (h : (pruneRelayControlIds now ids).get? id = some time) :
    ids.get? id = some time ∧ isExpired now (id, time) = false := by
  have hkept := get?_of_evictOldest h
  rw [dropExpired, OrderedMap.get?_foldl_delete_filter, Option.filter_eq_some_iff] at hkept
  exact ⟨hkept.1, by simpa using hkept.2⟩

/-- An id that is left after pruning was there. -/
lemma has_of_prune (h : (pruneRelayControlIds now ids).has id = true) : ids.has id = true := by
  obtain ⟨time, htime⟩ := OrderedMap.has_iff.mp h
  exact OrderedMap.has_iff.mpr ⟨time, (get?_of_prune htime).1⟩

/-- Whether the eviction has nothing to do. -/
private def IsEvicted (ids : RelayIds) : Prop :=
  ids.entries.length ≤ relayControlResponseMaxEntries ∨ ids.keys.head? = some ""

/-- Enough rounds evict all there is to evict. -/
private lemma isEvicted_evictOldest (h : ids.entries.length ≤ fuel) :
    IsEvicted (evictOldest fuel ids) := by
  induction fuel generalizing ids with
  | zero => exact .inl (le_trans h (Nat.zero_le _))
  | succ fuel ih =>
    rw [evictOldest]
    split
    · cases hhead : ids.keys.head? with
      | none =>
        have hempty : ids.entries = [] := by simpa [OrderedMap.keys] using hhead
        exact .inl (by simp [hempty])
      | some oldest =>
        dsimp only
        split
        · rename_i hblank
          exact .inr (by rw [hhead, hblank])
        · refine ih ?_
          have hmem : oldest ∈ ids.entries.map Prod.fst := List.mem_of_head? hhead
          obtain ⟨entry, hentry, hfst⟩ := List.mem_map.mp hmem
          have hlt : (ids.delete oldest).entries.length < ids.entries.length :=
            List.length_filter_lt_length_iff_exists.mpr ⟨entry, hentry, by simp [hfst]⟩
          omega
    · rename_i hle
      exact .inl (Nat.le_of_not_lt hle)

/-- Nothing is evicted from evicted ids. -/
private lemma evictOldest_eq_self (h : IsEvicted ids) : evictOldest fuel ids = ids := by
  cases fuel with
  | zero => rfl
  | succ fuel =>
    rw [evictOldest]
    rcases h with hle | hblank
    · rw [if_neg (Nat.not_lt_of_le hle)]
    · rw [hblank]
      simp

/-- **Pruning once more drops nothing.** -/
theorem prune_prune (now : ℕ) (ids : RelayIds) :
    pruneRelayControlIds now (pruneRelayControlIds now ids) = pruneRelayControlIds now ids := by
  have hkept : dropExpired now (pruneRelayControlIds now ids) = pruneRelayControlIds now ids := by
    have hnone : (pruneRelayControlIds now ids).entries.filter (isExpired now) = [] := by
      rw [List.filter_eq_nil_iff]
      intro entry hentry
      have hget := OrderedMap.mem_entries_iff.mp hentry
      rw [(get?_of_prune hget).2]
      simp
    rw [dropExpired, hnone, List.foldl_nil]
  rw [pruneRelayControlIds, hkept]
  exact evictOldest_eq_self (isEvicted_evictOldest le_rfl)

/-- The ids after one is tracked are it and the others. -/
lemma has_of_track {tracked : String} (h : (trackRelayControlResponseId now tracked ids).has id = true) :
    id = tracked ∨ ids.has id = true := by
  obtain ⟨time, htime⟩ := OrderedMap.has_iff.mp (has_of_prune h)
  rw [OrderedMap.get?_set] at htime
  split at htime
  · exact .inl ‹_›
  · rw [OrderedMap.get?_delete] at htime
    split at htime
    · cases htime
    · exact .inr (OrderedMap.has_iff.mpr ⟨time, htime⟩)

/-- The ids after one is dropped are the others. -/
lemma has_of_delete {dropped : String} (h : (ids.delete dropped).has id = true) :
    id ≠ dropped ∧ ids.has id = true := by
  obtain ⟨time, htime⟩ := OrderedMap.has_iff.mp h
  rw [OrderedMap.get?_delete] at htime
  split at htime
  · cases htime
  · exact ⟨‹_›, OrderedMap.has_iff.mpr ⟨time, htime⟩⟩

end Makaio.E2E

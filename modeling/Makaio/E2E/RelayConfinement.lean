import Makaio.E2E.RelayCodec
import Makaio.Foundations.Machine

set_option autoImplicit false

/-!
# What the relay codec passes in clear

The codec keeps one map for the control requests of both directions.  Hence a response under the id of a
request of its own is sent in clear, and a response of the relay under the id of a request of the relay is
accepted, as long as the id is in the map.  An id also stays in the map when its request is answered by an
encrypted response.  And `canEncode` looks at the map without pruning it, and not at whether a message can
be serialized.

## Main definitions

* `Traffic` — the codec with the control requests of each direction that are unanswered.
* `Confined` — what a call passes in clear is what the direction allows.
* `Regular` — the condition on calls under which it is.

## Main results

* `relay_confined` — along regular runs every call is confined, and a call that is not regular
  breaches confinement at once or makes a breach possible.
-/

namespace Makaio.E2E

open Foundations

variable {Key : Type}

/-! ### Runs -/

/-- The codec, with the ids of the control requests that it decoded and has not answered, and of those
that it encoded and has no answer to. -/
structure Traffic where
  ids : RelayIds
  owed : Finset String
  awaited : Finset String

/-- What is called. -/
inductive Operation
  | encode (message : Json) (serializes : Bool)
  | decode (frame : Json)
  | reset

/-- A call, with the time, the session key and the nonce it finds. -/
structure Call (Key : Type) where
  operation : Operation
  now : ℕ
  sessionKey : Option Key
  nonce : List UInt8

/-- Without an id, if there is one. -/
def dropId (id : Option String) (ids : Finset String) : Finset String :=
  match id with
  | some id => ids.erase id
  | none => ids

def addId (id : Option String) (ids : Finset String) : Finset String :=
  match id with
  | some id => insert id ids
  | none => ids

variable (registry : RelayControlRegistry) (cipher : AuthenticatedCipher Key) (format : NumberFormat)

/-- What a call does. -/
def perform (s : Traffic) (call : Call Key) : Traffic :=
  match call.operation with
  | .encode message serializes =>
    let result := encode registry cipher format call.now call.sessionKey call.nonce s.ids message serializes
    { ids := result.1
      awaited := if isRelayControlBusMessage registry message ∧ result.2.isSome then
          addId (requestId message) s.awaited
        else s.awaited
      owed := if result.2.isSome then dropId (responseId message) s.owed else s.owed }
  | .decode frame =>
    let result := decode registry cipher format call.now call.sessionKey s.ids frame
    { ids := result.1
      owed := if isRelayControlEnvelopeMessage registry frame then
          addId ((frame.member? "payload").bind requestId) s.owed
        else s.owed
      awaited := dropId (result.2.bind responseId) s.awaited }
  | .reset => { ids := .empty, owed := ∅, awaited := ∅ }

/-- The codec before any call. -/
def IsInitial (s : Traffic) : Prop := s = { ids := .empty, owed := ∅, awaited := ∅ }

/-- The states reached by runs of calls that satisfy a condition. -/
def Reached (ok : Traffic → Call Key → Prop) (s : Traffic) : Prop :=
  Reach IsInitial (fun s call => some (perform registry cipher format s call)) ok s

/-! ### Confinement -/

/-- A call is confined: what is sent is encrypted, or a control message, or a response to a control request
that was decoded and is unanswered, or subscription control before there is a session; what is received was
encrypted, or is a control message, or a response to a control request that was encoded and is unanswered,
or the acknowledgement of a subscription before there is a session; and a message can be encoded exactly if
its encoding does not fail. -/
def Confined (s : Traffic) (call : Call Key) : Prop :=
  match call.operation with
  | .encode message serializes =>
    let sent :=
      (encode registry cipher format call.now call.sessionKey call.nonce s.ids message serializes).2
    (∀ wire, sent = some wire →
      (∃ sessionKey, call.sessionKey = some sessionKey ∧
        wire = encryptRelayEnvelope cipher format sessionKey call.nonce message) ∨
      isRelayControlBusMessage registry message = true ∨
      (∃ id ∈ s.owed, responseId message = some id) ∨
      (call.sessionKey = none ∧
        (isSubscriptionControlMessage message || isRelaySubscriptionAck message) = true)) ∧
    canEncode registry call.sessionKey s.ids message = sent.isSome
  | .decode frame =>
    ∀ message, (decode registry cipher format call.now call.sessionKey s.ids frame).2 = some message →
      (∃ sessionKey, call.sessionKey = some sessionKey ∧ isRelayEnvelopeMessage frame = true ∧
        decryptRelayEnvelope cipher format sessionKey frame = some message) ∨
      (isRelayControlEnvelopeMessage registry frame = true ∧ frame.member? "payload" = some message) ∨
      (∃ id ∈ s.awaited, responseId message = some id) ∨
      (call.sessionKey = none ∧ isRelaySubscriptionAck message = true)
  | .reset => True

/-- A call is regular: no message that cannot be serialized is offered while it counts as one that can be
encoded; no response is encoded under the id of a request of the codec's own that is unanswered, nor offered
under an id that is about to be pruned while there is no session; no plain response arrives under the id of a
request that the codec owes the answer to; and no request of its own is answered by an encrypted response.
The second and the last two only matter for ids that are in the map. -/
def Regular (s : Traffic) (call : Call Key) : Prop :=
  match call.operation with
  | .encode message serializes =>
    (serializes = false → canEncode registry call.sessionKey s.ids message = false) ∧
    ∀ id, responseId message = some id →
      ((pruneRelayControlIds call.now s.ids).has id = true → id ∈ s.awaited → id ∈ s.owed) ∧
      (call.sessionKey = none → s.ids.has id = true →
        (pruneRelayControlIds call.now s.ids).has id = true)
  | .decode frame =>
    isRelayControlEnvelopeMessage registry frame = false →
      (∀ id, responseId frame = some id → (pruneRelayControlIds call.now s.ids).has id = true →
        id ∈ s.owed → id ∈ s.awaited) ∧
      (∀ sessionKey message id, call.sessionKey = some sessionKey → isRelayEnvelopeMessage frame = true →
        decryptRelayEnvelope cipher format sessionKey frame = some message →
        responseId message = some id → id ∈ s.awaited →
        (pruneRelayControlIds call.now s.ids).has id = false)
  | .reset => True

/-- Every id in the map is that of an unanswered request. -/
def Explained (s : Traffic) : Prop := ∀ id, s.ids.has id = true → id ∈ s.owed ∨ id ∈ s.awaited

/-! ### Types of messages -/

variable {registry cipher format}
variable {id : String} {message : Json} {frame : Json} {ids : RelayIds} {call : Call Key} {s : Traffic}
  {now : ℕ} {sessionKey : Option Key} {nonce : List UInt8}

/-- A response is no control message. -/
lemma not_control_of_responseId (h : responseId message = some id) :
    isRelayControlBusMessage registry message = false := by
  unfold responseId at h
  split_ifs at h with htype
  simp [isRelayControlBusMessage, htype]

lemma not_controlEnvelope_of_responseId (h : responseId frame = some id) :
    isRelayControlEnvelopeMessage registry frame = false := by
  unfold responseId at h
  split_ifs at h with htype
  simp [isRelayControlEnvelopeMessage, htype]

/-- A response is no subscription control. -/
lemma not_subscription_of_responseId (h : responseId message = some id) :
    (isSubscriptionControlMessage message || isRelaySubscriptionAck message) = false ∧
      isRelaySubscriptionAck message = false := by
  unfold responseId at h
  split_ifs at h with htype
  simp [isSubscriptionControlMessage, isRelaySubscriptionAck, htype]

/-- A response is no encrypted message. -/
lemma not_relayEnvelope_of_responseId (h : responseId frame = some id) :
    isRelayEnvelopeMessage frame = false := by
  unfold responseId at h
  split_ifs at h with htype
  simp [isRelayEnvelopeMessage, htype]

/-- An encrypted message is not the response it encrypts. -/
lemma ne_encryptRelayEnvelope (h : responseId message = some id) (sessionKey : Key) (nonce : List UInt8)
    (other : Json) :
    message ≠ encryptRelayEnvelope cipher format sessionKey nonce other := by
  rintro rfl
  have htype : stringMember "type" (encryptRelayEnvelope cipher format sessionKey nonce other) =
      some "e2e-relay-envelope" := by
    simp [stringMember, encryptRelayEnvelope, Json.member?, Json.str?]
  rw [responseId, htype] at h
  simp at h

/-! ### Calls -/

/-- What is encoded of a message that is no control message. -/
lemma encode_eq (h : isRelayControlBusMessage registry message = false) :
    encode registry cipher format now sessionKey nonce ids message true =
      match (responseId message).filter (pruneRelayControlIds now ids).has with
      | some id => ((pruneRelayControlIds now ids).delete id, some message)
      | none =>
        match sessionKey with
        | none => (pruneRelayControlIds now ids,
            if isSubscriptionControlMessage message || isRelaySubscriptionAck message then some message
            else none)
        | some sessionKey => (pruneRelayControlIds now ids,
            some (encryptRelayEnvelope cipher format sessionKey nonce message)) := by
  rw [encode, h]
  rfl

/-- A message that cannot be serialized is not encoded; unless it is a control message, no id is added. -/
lemma encode_unserializable :
    (encode registry cipher format now sessionKey nonce ids message false).2 = none ∧
      (isRelayControlBusMessage registry message = false → ∀ id,
        (encode registry cipher format now sessionKey nonce ids message false).1.has id = true →
          ids.has id = true) := by
  unfold encode
  by_cases hcontrol : isRelayControlBusMessage registry message = true
  · rw [if_pos hcontrol]
    exact ⟨rfl, fun h => by cases hcontrol.symm.trans h⟩
  · rw [if_neg hcontrol]
    dsimp only
    split
    · exact ⟨rfl, fun _ id hhas => has_of_prune (has_of_delete hhas).2⟩
    · cases sessionKey with
      | none => exact ⟨ite_self none, fun _ id hhas => has_of_prune hhas⟩
      | some sessionKey => exact ⟨rfl, fun _ id hhas => has_of_prune hhas⟩

/-- A response under an id in the map counts as one that can be encoded. -/
lemma canEncode_of_has (hid : responseId message = some id) (hhas : ids.has id = true) :
    canEncode registry sessionKey ids message = true := by
  rw [canEncode, hid, Option.any_some, hhas]
  simp

/-- What is decoded of a frame that is no control envelope. -/
lemma decode_eq (h : isRelayControlEnvelopeMessage registry frame = false) :
    decode registry cipher format now sessionKey ids frame =
      match (responseId frame).filter (pruneRelayControlIds now ids).has with
      | some id => ((pruneRelayControlIds now ids).delete id, some frame)
      | none =>
        match sessionKey with
        | none => (pruneRelayControlIds now ids, if isRelaySubscriptionAck frame then some frame else none)
        | some sessionKey => (pruneRelayControlIds now ids, if isRelayEnvelopeMessage frame then
            decryptRelayEnvelope cipher format sessionKey frame else none) := by
  rw [decode, h]
  rfl

/-- The id of a response, if it is in a map. -/
lemma filter_responseId_eq_some :
    (responseId message).filter ids.has = some id ↔ responseId message = some id ∧ ids.has id = true := by
  rw [Option.filter_eq_some_iff]

/-- No id of a response is in a map. -/
lemma filter_responseId_eq_none (h : (responseId message).filter ids.has = none)
    (hid : responseId message = some id) :
    ids.has id = false := by
  rw [Bool.eq_false_iff]
  intro hhas
  rw [filter_responseId_eq_some.mpr ⟨hid, hhas⟩] at h
  cases h

variable {dropped : Option String}

/-- An id that is kept when ids are dropped. -/
lemma mem_dropId {ids : Finset String} (h : id ∈ ids) (hne : dropped ≠ some id) :
    id ∈ dropId dropped ids := by
  cases dropped with
  | none => exact h
  | some other => exact Finset.mem_erase.mpr ⟨fun heq => hne (congrArg some heq.symm), h⟩

/-- An id that is kept when an answer may have been given to another one. -/
lemma mem_answered {answered : Prop} [Decidable answered] {ids : Finset String} (h : id ∈ ids)
    (hne : dropped ≠ some id) :
    id ∈ if answered then dropId dropped ids else ids := by
  split
  · exact mem_dropId h hne
  · exact h

/-- An id that is kept when ids are added. -/
lemma mem_addId {added : Option String} {ids : Finset String} (h : id ∈ ids ∨ added = some id) :
    id ∈ addId added ids := by
  cases added with
  | none => exact h.resolve_right (by simp)
  | some other =>
    rcases h with h | h
    · exact Finset.mem_insert_of_mem h
    · exact Finset.mem_insert.mpr (.inl (Option.some.inj h).symm)

/-- After a control request is tracked, the ids are explained by it and the others. -/
lemma has_of_trackAny {tracked : Option String}
    (h : (match tracked with | some id => trackRelayControlResponseId now id ids | none => ids).has id = true) :
    tracked = some id ∨ ids.has id = true := by
  cases tracked with
  | none => exact .inr h
  | some other =>
    rcases has_of_track h with heq | hhas
    · exact .inl (congrArg some heq.symm)
    · exact .inr hhas

/-- A regular call of `encode` leaves the ids explained. -/
lemma explained_encode {serializes : Bool} (hs : Explained s)
    (hregular : Regular registry cipher format s ⟨.encode message serializes, now, sessionKey, nonce⟩) :
    Explained (perform registry cipher format s ⟨.encode message serializes, now, sessionKey, nonce⟩) := by
  intro id
  dsimp only [perform]
  cases serializes with
  | false =>
    obtain ⟨hnone, hkept⟩ := @encode_unserializable Key registry cipher format message s.ids now sessionKey nonce
    have hcontrol : isRelayControlBusMessage registry message = false := by
      have hcan := hregular.1 rfl
      rw [canEncode] at hcan
      split_ifs at hcan with hcontrol
      exact Bool.eq_false_iff.mpr hcontrol
    rw [hnone, hcontrol]
    exact fun hhas => hs id (hkept hcontrol id hhas)
  | true =>
    cases hcontrol : isRelayControlBusMessage registry message with
    | true =>
      have hresponse : responseId message = none := by
        rw [Option.eq_none_iff_forall_ne_some]
        intro other hother
        rw [not_control_of_responseId hother] at hcontrol
        cases hcontrol
      rw [encode, hcontrol, hresponse]
      dsimp only [if_true, dropId, stringify, Option.isSome_some]
      intro hhas
      rcases has_of_trackAny hhas with htracked | hhas
      · exact .inr (mem_addId (.inr htracked))
      · rcases hs id hhas with howed | hawaited
        · exact .inl howed
        · exact .inr (mem_addId (.inl hawaited))
    | false =>
      rw [encode_eq hcontrol]
      cases hfilter : (responseId message).filter (pruneRelayControlIds now s.ids).has with
      | some answered =>
        obtain ⟨hid, -⟩ := filter_responseId_eq_some.mp hfilter
        intro hhas
        obtain ⟨hne, hhas⟩ := has_of_delete hhas
        rcases hs id (has_of_prune hhas) with howed | hawaited
        · exact .inl (mem_dropId howed (by rw [hid]; exact fun heq => hne (Option.some.inj heq).symm))
        · exact .inr hawaited
      | none =>
        intro hhas
        have hkept : (pruneRelayControlIds now s.ids).has id = true := by
          cases hkey : sessionKey <;> rw [hkey] at hhas <;> exact hhas
        have hne : responseId message ≠ some id := by
          intro hid
          rw [filter_responseId_eq_none hfilter hid] at hkept
          cases hkept
        rcases hs id (has_of_prune hkept) with howed | hawaited
        · exact .inl (mem_answered howed hne)
        · exact .inr hawaited

/-- A regular call of `decode` leaves the ids explained. -/
lemma explained_decode (hs : Explained s)
    (hregular : Regular registry cipher format s ⟨.decode frame, now, sessionKey, nonce⟩) :
    Explained (perform registry cipher format s ⟨.decode frame, now, sessionKey, nonce⟩) := by
  intro id
  dsimp only [perform]
  cases hcontrol : isRelayControlEnvelopeMessage registry frame with
  | true =>
    have hresponse : (frame.member? "payload").bind responseId = none := by
      rw [Option.eq_none_iff_forall_ne_some]
      intro other hother
      obtain ⟨message, hpayload, hother⟩ := Option.bind_eq_some_iff.mp hother
      simp [isRelayControlEnvelopeMessage, hpayload, not_control_of_responseId hother] at hcontrol
    rw [decode, hcontrol, if_pos rfl]
    dsimp only
    rw [hresponse]
    intro hhas
    rcases has_of_trackAny hhas with htracked | hhas
    · exact .inl (mem_addId (.inr htracked))
    · rcases hs id hhas with howed | hawaited
      · exact .inl (mem_addId (.inl howed))
      · exact .inr hawaited
  | false =>
    obtain ⟨-, hanswered⟩ := hregular hcontrol
    rw [decode_eq hcontrol]
    cases hfilter : (responseId frame).filter (pruneRelayControlIds now s.ids).has with
    | some answered =>
      obtain ⟨hid, -⟩ := filter_responseId_eq_some.mp hfilter
      intro hhas
      obtain ⟨hne, hhas⟩ := has_of_delete hhas
      rcases hs id (has_of_prune hhas) with howed | hawaited
      · exact .inl howed
      · refine .inr (mem_dropId hawaited ?_)
        rw [Option.bind_some, hid]
        exact fun heq => hne (Option.some.inj heq).symm
    | none =>
      cases hkey : sessionKey with
      | none =>
        intro hhas
        rcases hs id (has_of_prune hhas) with howed | hawaited
        · exact .inl howed
        · refine .inr (mem_dropId hawaited fun heq => ?_)
          obtain ⟨message, hmessage, hid⟩ := Option.bind_eq_some_iff.mp heq
          dsimp only at hmessage
          split_ifs at hmessage with hack
          rw [← Option.some.inj hmessage] at hid
          rw [(not_subscription_of_responseId hid).2] at hack
          cases hack
      | some sessionKey =>
        intro hhas
        rcases hs id (has_of_prune hhas) with howed | hawaited
        · exact .inl howed
        · refine .inr (mem_dropId hawaited fun heq => ?_)
          obtain ⟨message, hmessage, hid⟩ := Option.bind_eq_some_iff.mp heq
          dsimp only at hmessage
          split_ifs at hmessage with henvelope
          have hgone := hanswered sessionKey message id hkey henvelope hmessage hid hawaited
          rw [hgone] at hhas
          cases hhas

/-- **The ids are explained along regular runs.** -/
theorem explained_of_reached (hs : Reached registry cipher format (Regular registry cipher format) s) :
    Explained s := by
  refine hs.invariant Explained ?_ ?_
  · rintro s rfl id hhas
    cases hhas
  · intro s call t hexplained hregular hstep
    cases hstep
    obtain ⟨⟨message, serializes⟩ | frame | _, now, sessionKey, nonce⟩ := call
    · exact explained_encode hexplained hregular
    · exact explained_decode hexplained hregular
    · intro id hhas
      cases hhas

/-! ### Confinement -/

/-- A regular call of `encode` is confined. -/
lemma confined_encode {serializes : Bool} (hs : Explained s)
    (hregular : Regular registry cipher format s ⟨.encode message serializes, now, sessionKey, nonce⟩) :
    Confined registry cipher format s ⟨.encode message serializes, now, sessionKey, nonce⟩ := by
  dsimp only [Confined]
  cases serializes with
  | false =>
    rw [encode_unserializable.1, hregular.1 rfl]
    exact ⟨fun wire hwire => (by cases hwire), rfl⟩
  | true =>
  replace hregular := hregular.2
  cases hcontrol : isRelayControlBusMessage registry message with
  | true =>
    refine ⟨fun _ _ => .inr (.inl rfl), ?_⟩
    rw [encode, canEncode, hcontrol]
    rfl
  | false =>
    rw [encode_eq hcontrol]
    cases hfilter : (responseId message).filter (pruneRelayControlIds now s.ids).has with
    | some answered =>
      obtain ⟨hid, hhas⟩ := filter_responseId_eq_some.mp hfilter
      have howed : answered ∈ s.owed :=
        (hs answered (has_of_prune hhas)).elim id fun hawaited => (hregular _ hid).1 hhas hawaited
      refine ⟨fun _ _ => .inr (.inr (.inl ⟨answered, howed, hid⟩)), ?_⟩
      simp [canEncode, hcontrol, hid, has_of_prune hhas]
    | none =>
      cases hkey : sessionKey with
      | some sessionKey =>
        refine ⟨fun wire hwire => .inl ⟨sessionKey, rfl, (Option.some.inj hwire).symm⟩, ?_⟩
        simp [canEncode]
      | none =>
        refine ⟨fun wire hwire => ?_, ?_⟩
        · split_ifs at hwire with hsubscription
          exact .inr (.inr (.inr ⟨rfl, hsubscription⟩))
        · have huntracked : (responseId message).any s.ids.has = false := by
            cases hid : responseId message with
            | none => rfl
            | some id =>
              rw [Option.any_some, Bool.eq_false_iff]
              intro hhas
              have hkept := (hregular id hid).2 hkey hhas
              rw [filter_responseId_eq_none hfilter hid] at hkept
              cases hkept
          cases hsubscription : isSubscriptionControlMessage message || isRelaySubscriptionAck message <;>
            simp [canEncode, hcontrol, huntracked, hsubscription]

/-- A regular call of `decode` is confined. -/
lemma confined_decode (hs : Explained s)
    (hregular : Regular registry cipher format s ⟨.decode frame, now, sessionKey, nonce⟩) :
    Confined registry cipher format s ⟨.decode frame, now, sessionKey, nonce⟩ := by
  dsimp only [Confined]
  intro message hmessage
  cases hcontrol : isRelayControlEnvelopeMessage registry frame with
  | true =>
    rw [decode, hcontrol] at hmessage
    exact .inr (.inl ⟨rfl, hmessage⟩)
  | false =>
    rw [decode_eq hcontrol] at hmessage
    cases hfilter : (responseId frame).filter (pruneRelayControlIds now s.ids).has with
    | some answered =>
      obtain ⟨hid, hhas⟩ := filter_responseId_eq_some.mp hfilter
      have hawaited : answered ∈ s.awaited :=
        (hs answered (has_of_prune hhas)).elim (fun howed => (hregular hcontrol).1 _ hid hhas howed) id
      rw [hfilter] at hmessage
      cases hmessage
      exact .inr (.inr (.inl ⟨answered, hawaited, hid⟩))
    | none =>
      rw [hfilter] at hmessage
      cases hkey : sessionKey with
      | some sessionKey =>
        rw [hkey] at hmessage
        dsimp only at hmessage
        split_ifs at hmessage with henvelope
        exact .inl ⟨sessionKey, rfl, henvelope, hmessage⟩
      | none =>
        rw [hkey] at hmessage
        dsimp only at hmessage
        split_ifs at hmessage with hack
        cases hmessage
        exact .inr (.inr (.inr ⟨rfl, hack⟩))

/-- A call of `encode` that is not regular is not confined. -/
lemma not_confined_encode
    {serializes : Bool}
    (hregular : ¬Regular registry cipher format s ⟨.encode message serializes, now, sessionKey, nonce⟩) :
    ¬Confined registry cipher format s ⟨.encode message serializes, now, sessionKey, nonce⟩ := by
  cases serializes with
  | false =>
    rintro ⟨-, heq⟩
    rw [encode_unserializable.1] at heq
    refine hregular ⟨fun _ => heq, fun id hid => ?_⟩
    have hnot : s.ids.has id = false :=
      Bool.eq_false_iff.mpr fun hhas => by cases (canEncode_of_has hid hhas).symm.trans heq
    refine ⟨fun hhas => ?_, fun _ hhas => ?_⟩
    · cases hnot.symm.trans (has_of_prune hhas)
    · cases hnot.symm.trans hhas
  | true =>
  have hresponse : ¬∀ id, responseId message = some id →
      ((pruneRelayControlIds now s.ids).has id = true → id ∈ s.awaited → id ∈ s.owed) ∧
      (sessionKey = none → s.ids.has id = true → (pruneRelayControlIds now s.ids).has id = true) :=
    fun h => hregular ⟨fun hfalse => (by cases hfalse), h⟩
  push Not at hresponse
  obtain ⟨id, hid, hbreach⟩ := hresponse
  have hcontrol : isRelayControlBusMessage registry message = false := not_control_of_responseId hid
  have hsubscription := (not_subscription_of_responseId hid).1
  rintro ⟨hwire, hcan⟩
  rw [encode_eq hcontrol] at hwire hcan
  cases hhas : (pruneRelayControlIds now s.ids).has id with
  | true =>
    have hawaited : id ∈ s.awaited ∧ id ∉ s.owed := by
      by_contra hcon
      push Not at hcon
      exact absurd hhas (hbreach fun _ => hcon).2.2
    rw [filter_responseId_eq_some.mpr ⟨hid, hhas⟩] at hwire
    rcases hwire message rfl with ⟨sessionKey, -, hsealed⟩ | h | ⟨other, howed, hother⟩ | ⟨-, h⟩
    · exact ne_encryptRelayEnvelope hid _ _ _ hsealed
    · rw [hcontrol] at h
      cases h
    · cases hid.symm.trans hother
      exact hawaited.2 howed
    · rw [hsubscription] at h
      cases h
  | false =>
    obtain ⟨hkey, htracked, -⟩ := hbreach fun h => by rw [hhas] at h; cases h
    have hfilter : (responseId message).filter (pruneRelayControlIds now s.ids).has = none := by
      rw [hid, Option.filter_some, hhas]
      rfl
    rw [hfilter, hkey] at hcan
    simp [canEncode, hid, htracked, hsubscription] at hcan

/-- A plain response under an id in the map that no request of the codec's own waits for is not
confined. -/
lemma not_confined_response (hid : responseId frame = some id)
    (hhas : (pruneRelayControlIds now s.ids).has id = true) (hawaited : id ∉ s.awaited) :
    ¬Confined registry cipher format s ⟨.decode frame, now, sessionKey, nonce⟩ := by
  intro hconfined
  dsimp only [Confined] at hconfined
  have hcontrol : isRelayControlEnvelopeMessage registry frame = false :=
    not_controlEnvelope_of_responseId hid
  rw [decode_eq hcontrol, filter_responseId_eq_some.mpr ⟨hid, hhas⟩] at hconfined
  rcases hconfined frame rfl with ⟨-, -, h, -⟩ | ⟨h, -⟩ | ⟨other, hother, heq⟩ | ⟨-, h⟩
  · rw [not_relayEnvelope_of_responseId hid] at h
    cases h
  · rw [hcontrol] at h
    cases h
  · cases hid.symm.trans heq
    exact hawaited hother
  · rw [(not_subscription_of_responseId hid).2] at h
    cases h

/-- A call of `decode` that is not regular is not confined, or makes another call that is not. -/
lemma not_confined_decode
    (hregular : ¬Regular registry cipher format s ⟨.decode frame, now, sessionKey, nonce⟩) :
    ¬Confined registry cipher format s ⟨.decode frame, now, sessionKey, nonce⟩ ∨
      ∃ next, ¬Confined registry cipher format
        (perform registry cipher format s ⟨.decode frame, now, sessionKey, nonce⟩) next := by
  dsimp only [Regular] at hregular
  push Not at hregular
  obtain ⟨hcontrol, hbreach⟩ := hregular
  by_cases hfirst : ∀ id, responseId frame = some id →
      (pruneRelayControlIds now s.ids).has id = true → id ∈ s.owed → id ∈ s.awaited
  · obtain ⟨sessionKey, message, id, rfl, henvelope, hdecrypt, hid, hawaited, hhas⟩ := hbreach hfirst
    have hnone : responseId frame = none := by
      rw [Option.eq_none_iff_forall_ne_some]
      intro other hother
      rw [not_relayEnvelope_of_responseId hother] at henvelope
      cases henvelope
    have hperform : perform registry cipher format s ⟨.decode frame, now, some sessionKey, nonce⟩ =
        ⟨pruneRelayControlIds now s.ids, s.owed, s.awaited.erase id⟩ := by
      dsimp only [perform]
      rw [decode_eq hcontrol, hnone, hcontrol]
      simp [henvelope, hdecrypt, hid, dropId]
    refine .inr ⟨⟨.decode (.obj [("type", .str "response"), ("correlationId", .str id)]), now,
      some sessionKey, nonce⟩, ?_⟩
    rw [hperform]
    have hresponse : responseId (.obj [("type", .str "response"), ("correlationId", .str id)]) =
        some id := by
      simp [responseId, stringMember, Json.member?, Json.str?]
    refine not_confined_response hresponse ?_ ?_
    · rw [prune_prune]
      simpa using hhas
    · simp
  · push Not at hfirst
    obtain ⟨id, hid, hhas, -, hawaited⟩ := hfirst
    exact .inl (not_confined_response hid hhas hawaited)

variable (registry cipher format) in
/-- **What the relay codec passes in clear.**  Along runs of regular calls every regular call is confined.
A call that is not regular is not confined itself, or there is a call after it that is not.

**Proof sketch.** Along regular runs every id in the map is that of an unanswered request of one of the
directions, and regularity excludes the other direction.  A call that is not regular passes a response in
clear in the wrong direction, or a response that cannot be encoded, or it leaves an id in the map whose
request is answered, so that a plain response to it is accepted next. -/
theorem relay_confined (s : Traffic) (call : Call Key) :
    (Reached registry cipher format (Regular registry cipher format) s →
      Regular registry cipher format s call → Confined registry cipher format s call) ∧
    (¬Regular registry cipher format s call →
      ¬Confined registry cipher format s call ∨
        ∃ next, ¬Confined registry cipher format (perform registry cipher format s call) next) := by
  constructor
  · intro hs hregular
    have hexplained := explained_of_reached hs
    obtain ⟨⟨message, serializes⟩ | frame | _, now, sessionKey, nonce⟩ := call
    · exact confined_encode hexplained hregular
    · exact confined_decode hexplained hregular
    · trivial
  · intro hregular
    obtain ⟨⟨message, serializes⟩ | frame | _, now, sessionKey, nonce⟩ := call
    · exact .inl (not_confined_encode hregular)
    · exact not_confined_decode hregular
    · exact absurd trivial hregular

/-- A registry with one control request. -/
def openTunnel : RelayControlRegistry where
  isControlEvent _ _ := false
  isControlRequest ns subject := ns = "tunnel" && subject = "open"

/-- The relay sends a control request. -/
def requested : Call UInt8 where
  operation := .decode (.obj [("type", .str "relay-control"), ("v", .num 1),
    ("payload", .obj [("type", .str "request"), ("namespace", .str "tunnel"), ("subject", .str "open"),
      ("messageId", .str "m"), ("correlationId", .str "c"), ("payload", .null)])])
  now := 0
  sessionKey := some 0
  nonce := []

/-- The codec after the request. -/
def afterRequest : Traffic := perform openTunnel (.tagged []) .plain ⟨.empty, ∅, ∅⟩ requested

/-- A response under the id of the request. -/
def plainResponse : Json := .obj [("type", .str "response"), ("correlationId", .str "c")]

/-- The answer to the relay's request is confined. -/
theorem relay_confined_answer :
    Confined openTunnel (.tagged []) .plain afterRequest ⟨.encode plainResponse true, 1, some 0, []⟩ := by
  refine (relay_confined openTunnel (.tagged []) .plain afterRequest _).1
    (.next (a := requested) (.start rfl) (fun h => nomatch h) rfl) ⟨fun h => (by cases h), ?_⟩
  intro id hid
  obtain rfl : "c" = id := Option.some.inj hid
  exact ⟨fun _ _ => by decide, fun h => nomatch h⟩

/-- The relay answers its own request: its plain response is accepted although there is a session. -/
theorem not_relay_confined : ¬∀ (registry : RelayControlRegistry) (cipher : AuthenticatedCipher UInt8)
    (format : NumberFormat) (s : Traffic) (call : Call UInt8),
    Reached registry cipher format (fun _ _ => True) s → Confined registry cipher format s call := by
  intro h
  have hresponse : responseId plainResponse = some "c" := rfl
  exact not_confined_response (s := afterRequest) hresponse (by decide) (by decide)
    (h openTunnel (.tagged []) .plain afterRequest ⟨.decode plainResponse, 1, some 0, []⟩
      (.next (.start rfl) trivial rfl))

end Makaio.E2E

import Makaio.Bus.Dispatch

set_option autoImplicit false

/-!
# Runs under a growing bound

The bound on the depth of nested hops is a device of the model.  If every answer arrived, raising it
would never change what has happened: a run that ended stays as it is, and a run that was cut off
goes on.  A run in which an answer is lost stops there, and is a part of the run in which it arrives.

## Main results

* `deliverAnswered_extends`, `requestAnswered_extends` — a larger bound extends a
  run.
* `deliver_extends_answered`, `request_extends_answered` — so do the answers that
  are lost.
* `finiteMessages_of_ends` — a request that ends if every answer arrives sends finitely many
  messages.
-/

namespace Makaio.Bus

open Foundations

/-! ### Monotonicity -/

section Extension

variable {τ V : Type} [ObjectSpread V]

/-- A handler runs further when the rest of the chain does. -/
lemma runHandler_extends {downstream downstream' : V → Traced τ BusError (Option V)}
    (h : ∀ payload, (downstream payload).Extends (downstream' payload))
    (program : HandlerProgram V) :
    ∀ s, (runHandler downstream program s).Extends (runHandler downstream' program s) := by
  induction program with
  | done | fail error => exact fun s => .refl _
  | setResult value rest ih | extendResult extension rest ih | replacePayload newPayload rest ih =>
    exact fun s => ih _
  | next rest ih => exact fun s => (h _).settle fun outcome => ih _ _

lemma executeLocalEntry_extends {downstream downstream' : V → Traced τ BusError (Option V)}
    (h : ∀ payload, (downstream payload).Extends (downstream' payload)) (subjectKey : String)
    (program : HandlerProgram V) (payload : V) :
    (executeLocalEntry subjectKey program downstream payload).Extends
      (executeLocalEntry subjectKey program downstream' payload) := by
  refine Traced.Extends.mapError (Traced.Extends.andThen (runHandler_extends h program _) ?_) _
  intro s
  unfold finishLocalEntry
  cases s.nextSettled with
  | some settled => cases settled <;> exact .refl _
  | none =>
    cases s.result with
    | some value => exact .refl _
    | none => exact h _

variable {N H : Type} {net : Network N H V} {node : N}
  {send send' : String → BusRequestMessage V → NetworkRun N H V V}

/-- A walk runs further when its hops do. -/
lemma stepDispatch_extends (h : ∀ transport message,
      (send transport message).Extends (send' transport message))
    (definition : SubjectDefinition) (merged : List (MergedEntry H)) (options : DispatchOptions)
    (rest : List (MergedEntry H)) :
    ∀ index payload firstTransportError,
      (stepDispatch net node send definition merged options rest index payload
        firstTransportError).Extends
      (stepDispatch net node send' definition merged options rest index payload
        firstTransportError) := by
  induction rest with
  | nil => exact fun index payload firstTransportError => .refl _
  | cons head rest ih =>
    intro index payload firstTransportError
    cases head with
    | localEntry entry =>
      exact (executeLocalEntry_extends (fun _ => ih _ _ _) _ _ _).event _
    | remoteEntry entry =>
      rw [stepDispatch, stepDispatch, executeRemoteEntry, executeRemoteEntry]
      split_ifs
      · refine (h _ _).settle fun answer => ?_
        cases answer with
        | ok result => exact .refl _
        | error error =>
          dsimp only
          split_ifs
          · exact ih _ _ _
          · exact ih _ _ _
      · exact ih _ _ _

lemma dispatch_extends (h : ∀ transport message,
      (send transport message).Extends (send' transport message))
    (definition : SubjectDefinition) (payload : V) (options : DispatchOptions) :
    (dispatch net node send definition payload options).Extends
      (dispatch net node send' definition payload options) := by
  unfold dispatch
  dsimp only
  split
  · exact .refl _
  · split_ifs
    · exact .refl _
    · exact stepDispatch_extends h _ _ _ _ _ _ _

end Extension

section Bounds

variable {N H V : Type} [ObjectSpread V] (net : Network N H V)

/-- A hop runs further when the handling of messages at the peers does. -/
private lemma hopAnswered_extends_of_deliver {depth depth' : ℕ}
    (h : ∀ node message, (deliverAnswered net depth node message).Extends
      (deliverAnswered net depth' node message))
    (node : N) (transport : String) (message : BusRequestMessage V) :
    (hopAnswered net depth node transport message).Extends
      (hopAnswered net depth' node transport message) := by
  unfold hopAnswered
  refine Traced.Extends.event ?_ _
  cases net.peer node transport with
  | none => exact .refl _
  | some peer => exact h peer message

/-- The handling of a message runs further when the hops do. -/
private lemma handleRequestMessage_extends {node : N}
    {send send' : String → BusRequestMessage V → NetworkRun N H V V}
    (h : ∀ transport message, (send transport message).Extends (send' transport message))
    (message : BusRequestMessage V) :
    (handleRequestMessage net node send message).Extends
      (handleRequestMessage net node send' message) := by
  unfold handleRequestMessage
  dsimp only
  split_ifs
  · exact .refl _
  · exact (dispatch_extends h _ _ _).settle fun r => .refl _

/-- **A larger bound extends the handling of a message.** -/
theorem deliverAnswered_extends (depth : ℕ) : ∀ node message,
    (deliverAnswered net depth node message).Extends
      (deliverAnswered net (depth + 1) node message) := by
  induction depth with
  | zero => exact fun node message => Or.inr ⟨rfl, List.nil_prefix⟩
  | succ depth ih =>
    intro node message
    rw [deliverAnswered_succ, deliverAnswered_succ]
    exact handleRequestMessage_extends net (hopAnswered_extends_of_deliver net ih node) message

/-- **A larger bound extends a request.** -/
theorem requestAnswered_extends {depth depth' : ℕ} (hle : depth ≤ depth') (node : N)
    (definition : SubjectDefinition) (payload : V) (transports : Option (List String)) :
    (request net node (hopAnswered net depth node) definition payload transports).Extends
      (request net node (hopAnswered net depth' node) definition payload transports) := by
  induction hle with
  | refl => exact .refl _
  | step _ ih =>
    refine ih.trans (Traced.Extends.andThen ?_ fun _ => .refl _)
    exact dispatch_extends (hopAnswered_extends_of_deliver net (deliverAnswered_extends net _) node) _ _ _

variable [DecidableEq N]

/-- A hop is a part of the hop whose answers arrive. -/
private lemma hop_extends_of_deliver {depth : ℕ}
    (h : ∀ node message, (deliver net depth node message).Extends
      (deliverAnswered net depth node message))
    (node : N) (transport : String) (message : BusRequestMessage V) :
    (hop net depth node transport message).Extends
      (hopAnswered net depth node transport message) := by
  unfold hop hopAnswered
  refine Traced.Extends.event ?_ _
  cases net.peer node transport with
  | none => exact .refl _
  | some peer =>
    refine Traced.Extends.trans ?_ (h peer message)
    dsimp only
    unfold awaitAnswer
    split_ifs
    · exact Or.inr ⟨rfl, List.prefix_rfl⟩
    · exact .refl _

/-- **The handling of a message is a part of the one in which every answer arrives.** -/
theorem deliver_extends_answered (depth : ℕ) : ∀ node message,
    (deliver net depth node message).Extends (deliverAnswered net depth node message) := by
  induction depth with
  | zero => exact fun node message => .refl _
  | succ depth ih =>
    intro node message
    rw [deliver_succ, deliverAnswered_succ]
    exact handleRequestMessage_extends net (hop_extends_of_deliver net ih node) message

/-- … and so is a dispatch, … -/
theorem dispatch_extends_answered (depth : ℕ) (node : N) (definition : SubjectDefinition) (payload : V)
    (options : DispatchOptions) :
    (dispatch net node (hop net depth node) definition payload options).Extends
      (dispatch net node (hopAnswered net depth node) definition payload options) :=
  dispatch_extends (hop_extends_of_deliver net (deliver_extends_answered net depth) node) _ _ _

/-- … and a request. -/
theorem request_extends_answered (depth : ℕ) (node : N) (definition : SubjectDefinition) (payload : V)
    (transports : Option (List String)) :
    (request net node (hop net depth node) definition payload transports).Extends
      (request net node (hopAnswered net depth node) definition payload transports) :=
  Traced.Extends.andThen (dispatch_extends_answered net depth node definition payload _) fun _ => .refl _

end Bounds

/-! ### The messages of a run -/

section Messages

variable {N H V : Type} [ObjectSpread V] {net : Network N H V} {node : N}
  {definition : SubjectDefinition}

/-- The number of request messages sent in a run. -/
def sends (trace : List (BusEvent N H V)) : ℕ :=
  trace.countP fun
    | .send _ _ _ => true
    | .invoke _ _ _ => false

variable [DecidableEq N]

/-- The chain of messages of a request is finite: their number is bounded, however deep the run is
followed. -/
def FiniteMessages (net : Network N H V) (node : N) (definition : SubjectDefinition) (payload : V)
    (transports : Option (List String)) : Prop :=
  ∃ bound, ∀ depth,
    sends (request net node (hop net depth node) definition payload transports).trace ≤ bound

/-- **A request that ends if every answer arrives** sends finitely many messages. -/
theorem finiteMessages_of_ends {payload : V} {transports : Option (List String)} {depth : ℕ}
    (hend : (request net node (hopAnswered net depth node) definition payload transports).ending ≠
      .cutOff) :
    FiniteMessages net node definition payload transports := by
  refine ⟨sends (request net node (hopAnswered net depth node) definition payload transports).trace,
    fun depth' => ?_⟩
  refine (request_extends_answered net depth' node definition payload
    transports).trace_initial.sublist.countP_le.trans ?_
  rcases Nat.le_total depth' depth with hle | hle
  · exact (requestAnswered_extends net hle node definition payload
      transports).trace_initial.sublist.countP_le
  · rw [(requestAnswered_extends net hle node definition payload transports).eq_of_ne_cutOff hend]
    exact le_refl _

end Messages

end Makaio.Bus

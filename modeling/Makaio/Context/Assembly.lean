import Makaio.Context.Transforms

set_option autoImplicit false

/-!
# The assembly of a conversation

A session that was forked has no copies of the messages it inherits.  Its conversation is assembled from
the sessions of its parent chain (`build-context.ts`, `get-full-conversation.ts`).

## Main definitions

* `ConversationStore` — sessions, their events, and messages.
* `buildSessionContext` — the messages of one session, from its last squash on.
* `getFullConversation` — the conversation of a session.
* `inherited` — the messages inherited from the parent chain, before any transforms.

## Main results

* `getFullConversation_eq` — the conversation is the inherited messages, transformed,
  followed by the messages of the session.
* `inherited_fork` — what a fork inherits, from what its parent inherits.
-/

namespace Makaio.Context

open Foundations

/-! ### Stores -/

/-- The fields of a session that the assembly reads. -/
structure SessionRecord where
  parentSessionId : Option String
  forkPointMessageId : Option String
  forkTransforms : Option ForkTransforms

inductive SessionEvent
  | squash (eventId summaryJson : String) (timestamp : ℚ)
  | message (messageId : String)
  /-- A turn or branch event. -/
  | other (type : String)

/-- What the assembly reads: sessions, the events of a session in order, and messages. -/
structure ConversationStore where
  session : String → Option SessionRecord
  events : String → List SessionEvent
  message : String → Option SessionMessage

/-! ### One session -/

structure ContextAssemblyResult where
  messages : List SessionMessage
  hasSquashBoundary : Bool
  sessionChain : List String
  truncated : Bool
  incomplete : Bool

/-- The message that stands for what a squash replaced. -/
def summaryMessage (sessionId eventId summaryJson : String) (timestamp : ℚ) : SessionMessage where
  messageId := s!"squash-{eventId}"
  turnId := none
  sessionId := sessionId
  role := .assistant
  contentText := summaryJson
  blocks := [.text summaryJson]
  timestamp := timestamp
  agentId := none
  adapterSessionId := none
  adapterMessageId := none

variable (store : ConversationStore)

/-- The messages after an event, and whether there was a squash by then. -/
def walkEvent (sessionId : String) (acc : List SessionMessage × Bool) :
    SessionEvent → List SessionMessage × Bool
  | .squash eventId summaryJson timestamp =>
    ([summaryMessage sessionId eventId summaryJson timestamp], true)
  | .message messageId => (acc.1 ++ (store.message messageId).toList, acc.2)
  | .other _ => acc

/-- The events in order, until a limit of messages is reached.  The last value tells whether it was. -/
def walkEvents (sessionId : String) (limit : Option ℕ) :
    List SessionEvent → List SessionMessage × Bool → List SessionMessage × Bool × Bool
  | [], acc => (acc.1, acc.2, false)
  | event :: events, acc =>
    let acc := walkEvent store sessionId acc event
    match limit with
    | some limit =>
      if limit ≠ 0 ∧ limit ≤ acc.1.length then (acc.1, acc.2, true)
      else walkEvents sessionId (some limit) events acc
    | none => walkEvents sessionId none events acc

def buildSessionContext (sessionId : String) (limit : Option ℕ) : ContextAssemblyResult :=
  let result := walkEvents store sessionId limit (store.events sessionId) ([], false)
  { messages := result.1
    hasSquashBoundary := result.2.1
    sessionChain := [sessionId]
    truncated := result.2.2
    incomplete := false }

/-! ### The parent chain -/

/-- A session of the chain, with the fork point it has in its parent. -/
structure ChainEntry where
  sessionId : String
  forkPointMessageId : Option String

/-- The chain from a session up to its root, root first, in front of what was found before; and whether
the chain is broken.  There is none when the fuel does not suffice. -/
def buildChain : ℕ → Option String → List ChainEntry → Option (List ChainEntry × Bool)
  | _, none, chain => some (chain, false)
  | 0, some _, _ => none
  | fuel + 1, some sessionId, chain =>
    if sessionId = "" then some (chain, false)
    else match store.session sessionId with
      | none => some (chain, true)
      | some session =>
        buildChain fuel session.parentSessionId
          ({ sessionId, forkPointMessageId := session.forkPointMessageId } :: chain)

/-- The messages up to the fork point, or all of them. -/
def upTo (forkPoint : Option String) : List SessionMessage → List SessionMessage
  | [] => []
  | message :: messages =>
    if forkPoint = some message.messageId ∧ message.messageId ≠ "" then [message]
    else message :: upTo forkPoint messages

/-- What the pass over the chain keeps. -/
structure Assembly where
  sessionChain : List String
  ancestorMessages : List SessionMessage
  targetMessages : List SessionMessage
  hasSquashBoundary : Bool
  truncated : Bool

/-- The pass over the chain, from the root to the target. -/
def assemble : List ChainEntry → Assembly → Assembly
  | [], acc => acc
  | [target], acc =>
    let result := buildSessionContext store target.sessionId none
    { sessionChain := acc.sessionChain ++ [target.sessionId]
      ancestorMessages := acc.ancestorMessages
      targetMessages := result.messages
      hasSquashBoundary := acc.hasSquashBoundary || result.hasSquashBoundary
      truncated := acc.truncated || result.truncated }
  | ancestor :: next :: rest, acc =>
    let result := buildSessionContext store ancestor.sessionId none
    assemble (next :: rest)
      { sessionChain := acc.sessionChain ++ [ancestor.sessionId]
        ancestorMessages :=
          (if result.hasSquashBoundary then [] else acc.ancestorMessages) ++
            upTo next.forkPointMessageId result.messages
        targetMessages := acc.targetMessages
        hasSquashBoundary := acc.hasSquashBoundary || result.hasSquashBoundary
        truncated := acc.truncated || result.truncated }

/-- What the pass starts with. -/
def Assembly.empty : Assembly where
  sessionChain := []
  ancestorMessages := []
  targetMessages := []
  hasSquashBoundary := false
  truncated := false

/-- The transforms of a session. -/
def transformsOf (sessionId : String) : Option ForkTransforms :=
  (store.session sessionId).bind SessionRecord.forkTransforms

/-- The conversation of a session.  There is none when the fuel does not suffice for its chain or its
transforms throw. -/
def getFullConversation (actions : ActionRegistry) (fuel : ℕ) (sessionId : String) :
    Option ContextAssemblyResult :=
  match buildChain store fuel (some sessionId) [] with
  | none => none
  | some (chain, incomplete) =>
    let acc := assemble store chain .empty
    let ancestorMessages := match transformsOf store sessionId with
      | some transforms => applyForkTransforms actions acc.ancestorMessages transforms
      | none => some acc.ancestorMessages
    ancestorMessages.map fun ancestorMessages =>
      { messages := ancestorMessages ++ acc.targetMessages
        hasSquashBoundary := acc.hasSquashBoundary
        sessionChain := acc.sessionChain
        truncated := acc.truncated
        incomplete }

/-! ### The recursion over the chain -/

/-- The messages of a session itself, from its last squash on. -/
def ownMessages (sessionId : String) : List SessionMessage :=
  (buildSessionContext store sessionId none).messages

/-- The session was squashed. -/
def squashed (sessionId : String) : Bool := (buildSessionContext store sessionId none).hasSquashBoundary

/-- The messages that a chain passes on to its last session. -/
def passedOn : List ChainEntry → List SessionMessage → List SessionMessage
  | ancestor :: next :: rest, acc =>
    passedOn (next :: rest)
      ((if squashed store ancestor.sessionId then [] else acc) ++
        upTo next.forkPointMessageId (ownMessages store ancestor.sessionId))
  | _, acc => acc

/-- The messages a session inherits from its parent chain, before any transforms. -/
def inherited (fuel : ℕ) (sessionId : String) : Option (List SessionMessage) :=
  (buildChain store fuel (some sessionId) []).map fun chain => passedOn store chain.1 []

/-- The pass over a chain that is not empty. -/
lemma assemble_eq (chain : List ChainEntry) (target : ChainEntry) (acc : Assembly) :
    (assemble store (chain ++ [target]) acc).ancestorMessages =
        passedOn store (chain ++ [target]) acc.ancestorMessages ∧
      (assemble store (chain ++ [target]) acc).targetMessages = ownMessages store target.sessionId := by
  induction chain generalizing acc with
  | nil => exact ⟨rfl, rfl⟩
  | cons ancestor chain ih =>
    cases chain with
    | nil => exact ⟨rfl, rfl⟩
    | cons next rest => exact ih _

/-- What a longer chain passes on, from what its first part passes on. -/
lemma passedOn_append (chain : List ChainEntry) (parent fork : ChainEntry) (acc : List SessionMessage) :
    passedOn store (chain ++ [parent, fork]) acc =
      (if squashed store parent.sessionId then [] else passedOn store (chain ++ [parent]) acc) ++
        upTo fork.forkPointMessageId (ownMessages store parent.sessionId) := by
  induction chain generalizing acc with
  | nil => rfl
  | cons ancestor chain ih =>
    cases chain with
    | nil => rfl
    | cons next rest => exact ih _

/-- What was found before stays at the end of the chain. -/
lemma buildChain_acc (fuel : ℕ) (sessionId : Option String) (acc : List ChainEntry) :
    buildChain store fuel sessionId acc =
      (buildChain store fuel sessionId []).map fun chain => (chain.1 ++ acc, chain.2) := by
  induction fuel generalizing sessionId acc with
  | zero => cases sessionId <;> simp [buildChain]
  | succ fuel ih =>
    cases sessionId with
    | none => simp [buildChain]
    | some sessionId =>
      rw [buildChain, buildChain]
      split
      · rfl
      · cases store.session sessionId with
        | none => rfl
        | some session =>
          dsimp only
          rw [ih, ih _ [_], Option.map_map]
          simp [Function.comp_def]

variable {fuel : ℕ} {sessionId : String} {session : SessionRecord}
variable {more : ℕ} {result : List ChainEntry × Bool}

/-- More fuel finds the same chain. -/
lemma buildChain_mono (hle : fuel ≤ more) {sessionId : Option String} {acc : List ChainEntry}
    (h : buildChain store fuel sessionId acc = some result) :
    buildChain store more sessionId acc = some result := by
  induction fuel generalizing more sessionId acc with
  | zero =>
    cases sessionId with
    | none => cases more <;> exact h
    | some sessionId => cases h
  | succ fuel ih =>
    obtain ⟨more, rfl⟩ : ∃ n, more = n + 1 := ⟨more - 1, by omega⟩
    cases sessionId with
    | none => exact h
    | some sessionId =>
      rw [buildChain] at h ⊢
      split_ifs at h ⊢
      · exact h
      · cases hsession : store.session sessionId with
        | none => rwa [hsession] at h
        | some session =>
          rw [hsession] at h
          exact ih (by omega) h

/-- More fuel finds the same messages. -/
lemma inherited_mono (hle : fuel ≤ more) {messages : List SessionMessage}
    (h : inherited store fuel sessionId = some messages) :
    inherited store more sessionId = some messages := by
  obtain ⟨chain, hchain, rfl⟩ := Option.map_eq_some_iff.mp h
  rw [inherited, buildChain_mono store hle hchain]
  rfl

/-- The chain of a session that exists ends with it. -/
lemma buildChain_eq (hid : sessionId ≠ "") (hsession : store.session sessionId = some session)
    (h : buildChain store (fuel + 1) (some sessionId) [] = some result) :
    ∃ chain, buildChain store fuel session.parentSessionId [] = some (chain, result.2) ∧
      result.1 = chain ++ [{ sessionId, forkPointMessageId := session.forkPointMessageId }] := by
  rw [buildChain, if_neg hid, hsession] at h
  dsimp only at h
  rw [buildChain_acc] at h
  obtain ⟨⟨chain, incomplete⟩, hchain, rfl⟩ := Option.map_eq_some_iff.mp h
  exact ⟨chain, hchain, rfl⟩

/-- **The conversation of a session** is what it inherits, transformed, followed by its own messages. -/
theorem getFullConversation_eq (actions : ActionRegistry) (hid : sessionId ≠ "")
    (hsession : store.session sessionId = some session) :
    (getFullConversation store actions fuel sessionId).map ContextAssemblyResult.messages =
      (inherited store fuel sessionId).bind fun messages =>
        (match session.forkTransforms with
          | some transforms => applyForkTransforms actions messages transforms
          | none => some messages).map (· ++ ownMessages store sessionId) := by
  unfold getFullConversation inherited
  cases hchain : buildChain store fuel (some sessionId) [] with
  | none => rfl
  | some result =>
    obtain ⟨fuel, rfl⟩ : ∃ n, fuel = n + 1 := by
      cases fuel with
      | zero => cases hchain
      | succ fuel => exact ⟨fuel, rfl⟩
    obtain ⟨chain, -, hresult⟩ := buildChain_eq store hid hsession hchain
    obtain ⟨whole, incomplete⟩ := result
    obtain rfl : whole = _ := hresult
    obtain ⟨hancestor, htarget⟩ := assemble_eq store chain
      { sessionId, forkPointMessageId := session.forkPointMessageId } .empty
    have htransforms : transformsOf store sessionId = session.forkTransforms := by
      rw [transformsOf, hsession, Option.bind_some]
    dsimp only
    rw [htransforms, hancestor, htarget, Option.map_map, Option.map_some, Option.bind_some]
    cases session.forkTransforms <;> rfl

/-- **What a fork inherits**: what its parent inherits, unless the parent was squashed, and the messages
of the parent up to the fork point. -/
theorem inherited_fork {parentId : String} (hid : sessionId ≠ "") (hparentId : parentId ≠ "")
    {parent : SessionRecord} (hsession : store.session sessionId = some session)
    (hparent : session.parentSessionId = some parentId)
    (hparentSession : store.session parentId = some parent) :
    inherited store (fuel + 1) sessionId =
      (inherited store fuel parentId).map fun messages =>
        (if squashed store parentId then [] else messages) ++
          upTo session.forkPointMessageId (ownMessages store parentId) := by
  unfold inherited
  rw [buildChain, if_neg hid, hsession]
  dsimp only
  rw [hparent, buildChain_acc, Option.map_map, Option.map_map]
  cases hchain : buildChain store fuel (some parentId) [] with
  | none => rfl
  | some result =>
    obtain ⟨fuel, rfl⟩ : ∃ n, fuel = n + 1 := by
      cases fuel with
      | zero => cases hchain
      | succ fuel => exact ⟨fuel, rfl⟩
    obtain ⟨chain, -, hresult⟩ := buildChain_eq store hparentId hparentSession hchain
    rw [Option.map_some, Option.map_some, Function.comp_apply, Function.comp_apply, hresult]
    rw [List.append_assoc]
    exact congrArg some (passedOn_append store chain _ _ [])

end Makaio.Context

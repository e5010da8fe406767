import Makaio.Context.Assembly
import Makaio.Foundations.Machine

set_option autoImplicit false

/-!
# Chains of forks

Sessions, their messages and the handler that forks a session (`fork-handler.ts`).  A fork of a fork is
assembled by one pass over the whole chain, and this module compares the result with the conversation of
the parent.

## Main definitions

* `validateSegments`, `validatePipelineTransforms` — which transforms the
  handler accepts.
* `ForkState`, `ForkState.step` — sessions that are created, forked, written
  to and compressed.
* `cutAfter` — a conversation cut after a message of a session.

## Main results

* `conversation_fork` — the conversation of a fork, from that of its parent.
-/

namespace Makaio.Context

open Foundations

/-! ### The fork handler -/

/-- Messages by time, and by id at the same time. -/
def messageLe (a b : SessionMessage) : Bool :=
  a.timestamp < b.timestamp || (a.timestamp = b.timestamp && decide (a.messageId ≤ b.messageId))

/-- The segments lie one after the other without a gap, from an index on. -/
def contiguousFrom (messages : List SessionMessage) : ℕ → List SegmentPolicy → Bool
  | start, [] => start = messages.length
  | start, segment :: segments =>
    match lastIndexOf messages segment.fromMessageId, lastIndexOf messages segment.toMessageId with
    | some startIndex, some endIndex =>
      segment.fromMessageId ≠ "" && segment.toMessageId ≠ "" && startIndex ≤ endIndex &&
        startIndex = start && contiguousFrom messages (endIndex + 1) segments
    | _, _ => false

/-- The segments cover the messages of the source session up to the fork point. -/
def validateSegments (messages : List SessionMessage) (forkPoint : Option String)
    (segments : List SegmentPolicy) : Bool :=
  match forkPoint with
  | some forkPoint =>
    match messages.findIdx? fun message => message.messageId = forkPoint with
    | some index => contiguousFrom (messages.take (index + 1)) 0 segments
    | none => false
  | none => !messages.isEmpty && contiguousFrom messages 0 segments

/-- Every action of the pipeline is registered as a transformation. -/
def validatePipelineTransforms (actions : ActionRegistry) (steps : List PipelineStep) : Bool :=
  steps.all fun step => (actions step.actionId).any SessionEditorAction.isTransformation

/-- A request to fork a session.  The id of the fork is given, or a new one is chosen. -/
structure ForkRequest where
  sourceSessionId : String
  fromMessageId : Option String
  transforms : Option ForkTransforms
  sessionId : String

/-- Sessions with the latest first, messages, and the events of all sessions in order. -/
structure ForkState where
  sessions : List (String × SessionRecord)
  messages : List SessionMessage
  events : List (String × SessionEvent)

namespace ForkState

/-- The record of a session. -/
def session (s : ForkState) (sessionId : String) : Option SessionRecord :=
  (s.sessions.find? fun entry => entry.1 = sessionId).map Prod.snd

/-- A message by its id. -/
def message (s : ForkState) (messageId : String) : Option SessionMessage :=
  s.messages.find? fun message => message.messageId = messageId

/-- What the assembly of conversations reads. -/
def store (s : ForkState) : ConversationStore where
  session := s.session
  events sessionId := (s.events.filter fun event => event.1 = sessionId).map Prod.snd
  message := s.message

/-- The messages of a session in order. -/
def bySession (s : ForkState) (sessionId : String) : List SessionMessage :=
  (s.messages.filter fun message => message.sessionId = sessionId).mergeSort messageLe

/-- A session is created, if its id is new. -/
def create (s : ForkState) (sessionId : String) (record : SessionRecord) : ForkState :=
  if (s.session sessionId).isSome then s
  else { s with sessions := (sessionId, record) :: s.sessions }

/-- The fork point, which an empty text is not. -/
def forkPoint (request : ForkRequest) : Option String :=
  request.fromMessageId.filter fun messageId => messageId ≠ ""

/-- The handler accepts a request. -/
def accepts (actions : ActionRegistry) (s : ForkState) (request : ForkRequest) : Bool :=
  (s.session request.sourceSessionId).isSome &&
    (match forkPoint request with
      | some messageId =>
        (s.message messageId).any fun message => message.sessionId = request.sourceSessionId
      | none => true) &&
    (match request.transforms with
      | some transforms =>
        match transforms.segments with
        | [] => validatePipelineTransforms actions transforms.appliedPipeline
        | segment :: segments =>
          validateSegments (s.bySession request.sourceSessionId) (forkPoint request)
            (segment :: segments)
      | none => true)

/-- A session is forked. -/
def fork (actions : ActionRegistry) (s : ForkState) (request : ForkRequest) : Option ForkState :=
  if s.accepts actions request then
    some (s.create request.sessionId
      { parentSessionId := some request.sourceSessionId
        forkPointMessageId := request.fromMessageId
        forkTransforms := request.transforms })
  else none

/-- A message is stored, if its id is new. -/
def append (s : ForkState) (message : SessionMessage) : Option ForkState :=
  if (s.message message.messageId).isSome then none
  else some { s with messages := s.messages ++ [message] }

/-- An event is appended to a session. -/
def record (s : ForkState) (sessionId : String) (event : SessionEvent) : ForkState :=
  { s with events := s.events ++ [(sessionId, event)] }

end ForkState

/-- What happens to sessions: they are created without a parent, forked, written to, linked to a message
that was stored, and compressed. -/
inductive ForkAction
  | create (sessionId : String)
  | fork (request : ForkRequest)
  | append (message : SessionMessage)
  | link (messageId : String)
  | compress (sessionId eventId summaryJson : String) (timestamp : ℚ)
  | other (sessionId type : String)

namespace ForkState

/-- A step of the stores.  Ids of sessions are not empty. -/
def step (actions : ActionRegistry) (s : ForkState) : ForkAction → Option ForkState
  | .create sessionId =>
    if sessionId = "" then none
    else some (s.create sessionId
      { parentSessionId := none, forkPointMessageId := none, forkTransforms := none })
  | .fork request => if request.sessionId = "" then none else s.fork actions request
  | .append message => s.append message
  | .link messageId =>
    (s.message messageId).map fun message => s.record message.sessionId (.message messageId)
  | .compress sessionId eventId summaryJson timestamp =>
    some (s.record sessionId (.squash eventId summaryJson timestamp))
  | .other sessionId type => some (s.record sessionId (.other type))

/-- The stores are empty. -/
def IsInitial (s : ForkState) : Prop := s = { sessions := [], messages := [], events := [] }

/-- The stores after any run. -/
def Reached (actions : ActionRegistry) (s : ForkState) : Prop :=
  Reach IsInitial (step actions) (fun _ _ => True) s

/-- The conversation of a session. -/
def conversation (actions : ActionRegistry) (s : ForkState) (sessionId : String) :
    Option (List SessionMessage) :=
  (getFullConversation s.store actions s.sessions.length sessionId).map ContextAssemblyResult.messages

end ForkState

/-! ### Composition -/

/-- The messages of a conversation up to a message of a session, which has to be among them. -/
def cutAfter (sessionId messageId : String) : List SessionMessage → Option (List SessionMessage)
  | [] => none
  | message :: messages =>
    if message.messageId = messageId ∧ message.sessionId = sessionId then some [message]
    else (cutAfter sessionId messageId messages).map (message :: ·)

/-- The part of a conversation that a fork at a message of a session inherits: all of it, without a fork
point. -/
def prefixAt (sessionId : String) (forkPoint : Option String) (messages : List SessionMessage) :
    Option (List SessionMessage) :=
  match forkPoint.filter fun messageId => messageId ≠ "" with
  | some messageId => cutAfter sessionId messageId messages
  | none => some messages

/-- The transforms of a fork, if it has any. -/
def transformed (actions : ActionRegistry) (transforms : Option ForkTransforms)
    (messages : List SessionMessage) : Option (List SessionMessage) :=
  match transforms with
  | some transforms => applyForkTransforms actions messages transforms
  | none => some messages

variable {messageId : String} {others : List SessionMessage} {sessions : List (String × SessionRecord)}

/-- Messages of other sessions are not cut. -/
lemma cutAfter_append {sessionId : String} (h : ∀ message ∈ others, message.sessionId ≠ sessionId)
    (messages : List SessionMessage) :
    cutAfter sessionId messageId (others ++ messages) =
      (cutAfter sessionId messageId messages).map (others ++ ·) := by
  induction others with
  | nil => simp
  | cons other others ih =>
    rw [List.cons_append, cutAfter, if_neg (fun hcut => h other List.mem_cons_self hcut.2),
      ih fun message hmessage => h message (List.mem_cons_of_mem _ hmessage), Option.map_map]
    rfl

variable {messages : List SessionMessage} {forkPoint : Option String}

/-- Among the messages of a session, the cut is at the id. -/
lemma cutAfter_eq_upTo {sessionId : String} (hid : messageId ≠ "")
    (h : ∀ message ∈ messages, message.sessionId = sessionId)
    (hmem : ∃ message ∈ messages, message.messageId = messageId) :
    cutAfter sessionId messageId messages = some (upTo (some messageId) messages) := by
  induction messages with
  | nil =>
    obtain ⟨message, hmessage, -⟩ := hmem
    cases hmessage
  | cons message messages ih =>
    rw [cutAfter, upTo]
    by_cases hcut : message.messageId = messageId
    · rw [if_pos ⟨hcut, h message List.mem_cons_self⟩, if_pos ⟨congrArg some hcut.symm, hcut ▸ hid⟩]
    · rw [if_neg fun hboth => hcut hboth.1,
        if_neg fun hboth => hcut (Option.some.inj hboth.1).symm,
        ih (fun other hother => h other (List.mem_cons_of_mem _ hother))]
      · rfl
      · obtain ⟨found, hfound, heq⟩ := hmem
        rcases List.mem_cons.mp hfound with rfl | htail
        · exact absurd heq hcut
        · exact ⟨found, htail, heq⟩

/-- Without a fork point nothing is left out. -/
lemma upTo_of_filter_eq_none (h : (forkPoint.filter fun messageId => messageId ≠ "") = none)
    (messages : List SessionMessage) :
    upTo forkPoint messages = messages := by
  induction messages with
  | nil => rfl
  | cons message messages ih =>
    rw [upTo, if_neg, ih]
    rintro ⟨rfl, hne⟩
    simp [hne] at h

/-- The prefix of a conversation that ends with the messages of a session is what lies before them,
followed by the messages of the session up to the fork point. -/
lemma prefixAt_append {sessionId : String} (hothers : ∀ message ∈ others, message.sessionId ≠ sessionId)
    (hown : ∀ message ∈ messages, message.sessionId = sessionId)
    (hpoint : ∀ messageId, forkPoint = some messageId → messageId ≠ "" →
      ∃ message ∈ messages, message.messageId = messageId) :
    prefixAt sessionId forkPoint (others ++ messages) = some (others ++ upTo forkPoint messages) := by
  unfold prefixAt
  cases hfilter : forkPoint.filter fun messageId => messageId ≠ "" with
  | none => rw [upTo_of_filter_eq_none hfilter]
  | some messageId =>
    obtain ⟨hsome, hne⟩ := Option.filter_eq_some_iff.mp hfilter
    have hid : messageId ≠ "" := by simpa using hne
    dsimp only
    rw [cutAfter_append hothers, cutAfter_eq_upTo hid hown (hpoint messageId hsome hid), hsome]
    rfl

/-- What lies before a cut is part of the messages. -/
lemma mem_of_mem_upTo {message : SessionMessage} (h : message ∈ upTo forkPoint messages) :
    message ∈ messages := by
  induction messages with
  | nil => exact h
  | cons other messages ih =>
    rw [upTo] at h
    split_ifs at h
    · exact List.mem_cons.mpr (.inl (List.mem_singleton.mp h))
    · rcases List.mem_cons.mp h with rfl | htail
      · exact List.mem_cons_self
      · exact List.mem_cons_of_mem _ (ih htail)

/-! ### The invariant of the stores -/

/-- Sessions have ids that are new and not empty, and parents that were created before them. -/
def SessionsInv : List (String × SessionRecord) → Prop
  | [] => True
  | (sessionId, record) :: sessions => SessionsInv sessions ∧ sessionId ≠ "" ∧
      sessionId ∉ sessions.map Prod.fst ∧
      ∀ parentId, record.parentSessionId = some parentId → parentId ∈ sessions.map Prod.fst

/-- Ids of sessions are not empty. -/
lemma SessionsInv.ne_empty (h : SessionsInv sessions) : ∀ entry ∈ sessions, entry.1 ≠ "" := by
  induction sessions with
  | nil => exact fun entry hentry => by cases hentry
  | cons latest sessions ih =>
    intro entry hentry
    rcases List.mem_cons.mp hentry with rfl | hold
    · exact h.2.1
    · exact ih h.1 entry hold

/-- A session is found under its id. -/
lemma SessionsInv.find?_eq (h : SessionsInv sessions) :
    ∀ entry ∈ sessions, sessions.find? (fun other => other.1 = entry.1) = some entry := by
  induction sessions with
  | nil => exact fun entry hentry => by cases hentry
  | cons latest sessions ih =>
    intro entry hentry
    rcases List.mem_cons.mp hentry with rfl | hold
    · simp
    · have hne : latest.1 ≠ entry.1 := fun heq => h.2.2.1 (heq ▸ List.mem_map.mpr ⟨entry, hold, rfl⟩)
      rw [List.find?_cons_of_neg (by simpa using hne)]
      exact ih h.1 entry hold

/-- The invariant of the stores: events link sessions to messages of their own. -/
structure ForkState.Inv (s : ForkState) : Prop where
  sessions : SessionsInv s.sessions
  events : ∀ sessionId messageId, (sessionId, SessionEvent.message messageId) ∈ s.events →
    ∃ message, s.message messageId = some message ∧ message.sessionId = sessionId

namespace ForkState

variable {actions : ActionRegistry} {s : ForkState}
variable {sessionId : String}

/-- A session that is found is one of the list. -/
lemma session_isSome :
    (s.session sessionId).isSome = true ↔ sessionId ∈ s.sessions.map Prod.fst := by
  simp [session, List.find?_isSome]

/-- The creation of a session keeps the invariant. -/
lemma Inv.create (h : s.Inv) (hid : sessionId ≠ "") {record : SessionRecord}
    (hparent : ∀ parentId, record.parentSessionId = some parentId → (s.session parentId).isSome = true) :
    (s.create sessionId record).Inv := by
  unfold ForkState.create
  split_ifs with hexists
  · exact h
  · refine ⟨⟨h.sessions, hid, fun hmem => hexists (session_isSome.mpr hmem), ?_⟩, h.events⟩
    exact fun parentId hp => session_isSome.mp (hparent parentId hp)

/-- An event that is no link to a message keeps the invariant, and so does a link to a message of the
session. -/
lemma Inv.record (h : s.Inv) {event : SessionEvent} (hevent : ∀ messageId, event = .message messageId →
      ∃ message, s.message messageId = some message ∧ message.sessionId = sessionId) :
    (s.record sessionId event).Inv := by
  refine ⟨h.sessions, fun other messageId hmem => ?_⟩
  rcases List.mem_append.mp hmem with hold | hnew
  · exact h.events other messageId hold
  · obtain ⟨rfl, heq⟩ := Prod.mk.inj (List.mem_singleton.mp hnew)
    exact hevent messageId heq.symm

/-- A step keeps the invariant. -/
lemma Inv.step (h : s.Inv) {action : ForkAction} {t : ForkState} (ht : s.step actions action = some t) :
    t.Inv := by
  cases action with
  | create sessionId =>
    obtain ⟨hid, hcreate⟩ := Option.ite_none_left_eq_some.mp ht
    cases hcreate
    exact h.create hid fun parentId hparent => by cases hparent
  | fork request =>
    obtain ⟨hid, hfork⟩ := Option.ite_none_left_eq_some.mp ht
    obtain ⟨haccepts, hcreate⟩ := Option.ite_none_right_eq_some.mp hfork
    cases hcreate
    refine h.create hid fun parentId hparent => ?_
    cases hparent
    simp only [accepts, Bool.and_eq_true] at haccepts
    exact haccepts.1.1
  | append message =>
    obtain ⟨-, hstored⟩ := Option.ite_none_left_eq_some.mp ht
    cases hstored
    refine ⟨h.sessions, fun sessionId messageId hmem => ?_⟩
    obtain ⟨old, hold, hsession⟩ := h.events sessionId messageId hmem
    refine ⟨old, ?_, hsession⟩
    rw [ForkState.message, List.find?_append, show s.messages.find? _ = some old from hold,
      Option.some_or]
  | link messageId =>
    obtain ⟨message, hmessage, rfl⟩ := Option.map_eq_some_iff.mp ht
    refine h.record fun other hother => ?_
    cases hother
    exact ⟨message, hmessage, rfl⟩
  | compress sessionId eventId summaryJson timestamp | other sessionId type =>
    cases ht
    exact h.record fun messageId heq => by cases heq

/-- The invariant holds after every run. -/
lemma inv_of_reached (hs : s.Reached actions) : s.Inv := by
  refine Reach.invariant Inv ?_ (fun s action t h _ ht => h.step ht) hs
  rintro s rfl
  exact ⟨trivial, fun sessionId messageId hmem => by cases hmem⟩

lemma Inv.sessionId_of_mem_ownMessages (h : s.Inv) {message : SessionMessage}
    (hmem : message ∈ ownMessages s.store sessionId) : message.sessionId = sessionId := by
  have hwalk : ∀ (events : List SessionEvent) (acc : List SessionMessage × Bool),
      (∀ messageId, SessionEvent.message messageId ∈ events →
        (sessionId, SessionEvent.message messageId) ∈ s.events) →
      (∀ m ∈ acc.1, m.sessionId = sessionId) →
      ∀ m ∈ (walkEvents s.store sessionId none events acc).1, m.sessionId = sessionId := by
    intro events
    induction events with
    | nil => exact fun acc _ hacc => hacc
    | cons event events ih =>
      intro acc hevents hacc
      refine ih _ (fun messageId hm => hevents messageId (List.mem_cons_of_mem _ hm)) ?_
      cases event with
      | squash eventId summaryJson timestamp =>
        intro m hm
        obtain rfl := List.mem_singleton.mp hm
        rfl
      | message messageId =>
        intro m hm
        rcases List.mem_append.mp hm with hold | hnew
        · exact hacc m hold
        · obtain ⟨found, hfound, hsession⟩ := h.events _ _ (hevents messageId List.mem_cons_self)
          cases hfound.symm.trans (Option.mem_toList.mp hnew)
          exact hsession
      | other type => exact hacc
  refine hwalk _ ([], false) (fun messageId hm => ?_) (fun m hm => by cases hm) message hmem
  obtain ⟨⟨other, event⟩, hevent, rfl⟩ := List.mem_map.mp hm
  obtain ⟨hin, hother⟩ := List.mem_filter.mp hevent
  exact of_decide_eq_true hother ▸ hin

/-- Every session has a chain, and inherits messages of sessions that were created before it.

**Proof sketch.** Induction on the sessions in the order of their creation: a fork inherits what its parent
inherits and messages of the parent, which was created before. -/
lemma Inv.exists_inherited (h : s.Inv) (sessions : List (String × SessionRecord))
    (hsessions : SessionsInv sessions)
    (hstore : ∀ entry ∈ sessions, s.session entry.1 = some entry.2) :
    ∀ entry ∈ sessions, ∃ messages, inherited s.store sessions.length entry.1 = some messages ∧
      ∀ message ∈ messages, message.sessionId ≠ entry.1 ∧ message.sessionId ∈ sessions.map Prod.fst := by
  induction sessions with
  | nil => exact fun entry hentry => by cases hentry
  | cons latest sessions ih =>
    obtain ⟨hrest, hid, hnew, hparent⟩ := hsessions
    have hold := ih hrest fun entry hentry => hstore entry (List.mem_cons_of_mem _ hentry)
    intro entry hentry
    rcases List.mem_cons.mp hentry with rfl | hentry
    · have hsession := hstore entry List.mem_cons_self
      cases hp : entry.2.parentSessionId with
      | none =>
        refine ⟨[], ?_, fun message hm => by cases hm⟩
        rw [inherited, List.length_cons, buildChain, if_neg hid,
          show s.store.session entry.1 = some entry.2 from hsession]
        dsimp only
        rw [hp]
        cases sessions.length <;> rfl
      | some parentId =>
        obtain ⟨⟨_, parent⟩, hmem, rfl⟩ := List.mem_map.mp (hparent parentId hp)
        obtain ⟨messages, hmessages, hbefore⟩ := hold _ hmem
        have hfork : inherited s.store (sessions.length + 1) entry.1 = _ :=
          inherited_fork s.store hid (hrest.ne_empty _ hmem) hsession hp
            (hstore _ (List.mem_cons_of_mem _ hmem))
        rw [hmessages, Option.map_some] at hfork
        refine ⟨_, hfork, fun message hm => ?_⟩
        have hin : message.sessionId ∈ sessions.map Prod.fst := by
          rcases List.mem_append.mp hm with hm | hm
          · split_ifs at hm
            · cases hm
            · exact (hbefore message hm).2
          · rw [h.sessionId_of_mem_ownMessages (mem_of_mem_upTo hm)]
            exact List.mem_map.mpr ⟨_, hmem, rfl⟩
        exact ⟨fun heq => hnew (heq ▸ hin), List.mem_cons_of_mem _ hin⟩
    · obtain ⟨messages, hmessages, hbefore⟩ := hold entry hentry
      refine ⟨messages, ?_, fun message hm => ⟨(hbefore message hm).1,
        List.mem_cons_of_mem _ (hbefore message hm).2⟩⟩
      exact inherited_mono s.store (Nat.le_succ _) hmessages

variable {session : SessionRecord}

/-- The id of a session that exists is not empty. -/
lemma Inv.id_ne_empty (h : s.Inv) (hsession : s.session sessionId = some session) :
    sessionId ≠ "" := by
  obtain ⟨entry, hentry, rfl⟩ := Option.map_eq_some_iff.mp hsession
  obtain rfl : entry.1 = sessionId := by simpa using List.find?_some hentry
  exact h.sessions.ne_empty entry (List.mem_of_find?_eq_some hentry)

/-- Every session inherits messages, all of them of other sessions. -/
lemma Inv.inherited (h : s.Inv) (hsession : s.session sessionId = some session) :
    ∃ messages, inherited s.store s.sessions.length sessionId = some messages ∧
      ∀ message ∈ messages, message.sessionId ≠ sessionId := by
  obtain ⟨entry, hentry, rfl⟩ := Option.map_eq_some_iff.mp hsession
  obtain rfl : entry.1 = sessionId := by simpa using List.find?_some hentry
  have hstore : ∀ other ∈ s.sessions, s.session other.1 = some other.2 := by
    intro other hother
    rw [ForkState.session, h.sessions.find?_eq other hother, Option.map_some]
  obtain ⟨messages, hmessages, hothers⟩ := h.exists_inherited s.sessions h.sessions hstore entry
    (List.mem_of_find?_eq_some hentry)
  exact ⟨messages, hmessages, fun message hm => (hothers message hm).1⟩

/-- The conversation of a session is what it inherits, transformed, followed by its own messages. -/
lemma Inv.conversation_eq (actions : ActionRegistry) (h : s.Inv)
    (hsession : s.session sessionId = some session) :
    ∃ messages, Context.inherited s.store s.sessions.length sessionId = some messages ∧
      (∀ message ∈ messages, message.sessionId ≠ sessionId) ∧
      s.conversation actions sessionId =
        (transformed actions session.forkTransforms messages).map (· ++ ownMessages s.store sessionId) := by
  obtain ⟨messages, hmessages, hothers⟩ := h.inherited hsession
  refine ⟨messages, hmessages, hothers, ?_⟩
  rw [conversation, getFullConversation_eq s.store actions (h.id_ne_empty hsession) hsession, hmessages, Option.bind_some]
  rfl

end ForkState

open ForkState in
/-- **The conversation of a fork** is its own transforms applied to the inherited prefix, followed by its
own messages.  The prefix is the conversation of the parent, cut after the fork point; of a parent that was
squashed, only the messages of the parent itself.  This is so for a parent without transforms of its own,
and a fork point that no squash of the parent has replaced. -/
theorem conversation_fork {actions : ActionRegistry} {s : ForkState} (hs : s.Reached actions)
    {sessionId parentId : String} {session parent : SessionRecord}
    (hsession : s.session sessionId = some session)
    (hparent : session.parentSessionId = some parentId)
    (hparentSession : s.session parentId = some parent)
    (hplain : ∀ transforms, parent.forkTransforms = some transforms → transforms.IsEmpty)
    (hpoint : ∀ messageId, session.forkPointMessageId = some messageId → messageId ≠ "" →
      ∃ message ∈ ownMessages s.store parentId, message.messageId = messageId) :
    ∃ parentMessages inheritedPrefix, s.conversation actions parentId = some parentMessages ∧
      prefixAt parentId session.forkPointMessageId
        (if squashed s.store parentId then ownMessages s.store parentId else parentMessages) =
          some inheritedPrefix ∧
      s.conversation actions sessionId =
        (transformed actions session.forkTransforms inheritedPrefix).map
          (· ++ ownMessages s.store sessionId) := by
  have hinv := inv_of_reached hs
  obtain ⟨messages, hmessages, hothers, hconversation⟩ := hinv.conversation_eq actions hparentSession
  obtain ⟨messages', hmessages', -, hconversation'⟩ := hinv.conversation_eq actions hsession
  have hown : ∀ message ∈ ownMessages s.store parentId, message.sessionId = parentId :=
    fun message hm => hinv.sessionId_of_mem_ownMessages hm
  -- the parent has no transforms, so that its conversation is what it inherits and its own messages
  have hparentMessages : s.conversation actions parentId =
      some (messages ++ ownMessages s.store parentId) := by
    rw [hconversation]
    cases htransforms : parent.forkTransforms with
    | none => rfl
    | some transforms =>
      rw [transformed, applyForkTransforms_of_isEmpty actions (hplain transforms htransforms)]
      rfl
  have hinherits : messages' = (if squashed s.store parentId then [] else messages) ++
      upTo session.forkPointMessageId (ownMessages s.store parentId) := by
    obtain ⟨fuel, hfuel⟩ : ∃ n, s.sessions.length = n + 1 := by
      refine ⟨s.sessions.length - 1, ?_⟩
      have hin := session_isSome.mp (Option.isSome_iff_exists.mpr ⟨_, hsession⟩)
      have hpos := List.length_pos_of_mem hin
      rw [List.length_map] at hpos
      omega
    rw [hfuel] at hmessages hmessages'
    rw [inherited_fork s.store (hinv.id_ne_empty hsession) (hinv.id_ne_empty hparentSession) hsession hparent
      hparentSession] at hmessages'
    obtain ⟨less, hless, rfl⟩ := Option.map_eq_some_iff.mp hmessages'
    rw [inherited_mono s.store (Nat.le_succ fuel) hless] at hmessages
    rw [Option.some.inj hmessages]
  refine ⟨_, messages', hparentMessages, ?_, hconversation'⟩
  rw [hinherits]
  cases squashed s.store parentId with
  | true =>
    have hnone : ∀ message ∈ ([] : List SessionMessage), message.sessionId ≠ parentId :=
      fun message hm => by cases hm
    exact prefixAt_append hnone hown hpoint
  | false => exact prefixAt_append hothers hown hpoint

/-! ### Forks of a fork -/

/-- The conversation of a fork is its own transforms applied to the conversation of its parent cut after
the fork point, followed by its own messages. -/
def Composes (actions : ActionRegistry) (s : ForkState) (sessionId : String) : Prop :=
  ∀ session parentId parentMessages inheritedPrefix, s.session sessionId = some session →
    session.parentSessionId = some parentId → s.conversation actions parentId = some parentMessages →
    prefixAt parentId session.forkPointMessageId parentMessages = some inheritedPrefix →
    s.conversation actions sessionId =
      (transformed actions session.forkTransforms inheritedPrefix).map
        (· ++ ownMessages s.store sessionId)

def userMessage (messageId sessionId : String) (timestamp : ℚ) : SessionMessage where
  messageId := messageId
  turnId := none
  sessionId := sessionId
  role := .user
  contentText := messageId
  blocks := [.text messageId]
  timestamp := timestamp
  agentId := none
  adapterSessionId := none
  adapterMessageId := none

/-- A session with two messages that is forked at the first, and a fork of the fork at the message of
that one. -/
def forkRun (transforms : Option ForkTransforms) : List ForkAction :=
  [.create "root", .append (userMessage "m1" "root" 1), .link "m1",
    .append (userMessage "m2" "root" 2), .link "m2",
    .fork { sourceSessionId := "root", fromMessageId := some "m1", transforms, sessionId := "mid" },
    .append (userMessage "m3" "mid" 3), .link "m3",
    .fork { sourceSessionId := "mid", fromMessageId := none, transforms := none, sessionId := "leaf" },
    .append (userMessage "m4" "leaf" 4), .link "m4"]

/-- The state after a run, from empty stores. -/
def runForks (actions : List ForkAction) : Option ForkState :=
  runGuarded (ForkState.step fun _ => none) (fun _ _ => True)
    { sessions := [], messages := [], events := [] } actions

def conversationIds (s : ForkState) (sessionId : String) : Option (List String) :=
  (s.conversation (fun _ => none) sessionId).map (List.map SessionMessage.messageId)

/-- A state that a run ends in is reached. -/
lemma reached_of_runForks {actions : List ForkAction} {s : ForkState} (h : runForks actions = some s) :
    s.Reached fun _ => none :=
  have hstart : ForkState.Reached (fun _ => none) { sessions := [], messages := [], events := [] } :=
    .start rfl
  Reach.of_runGuarded actions hstart h

/-- The first fork goes on, and is forked at its first message, without a message that it inherits. -/
def prunedRun : List ForkAction :=
  forkRun none ++
    [.append (userMessage "m5" "mid" 5), .link "m5",
      .fork { sourceSessionId := "mid", fromMessageId := some "m3", sessionId := "pruned",
              transforms := some { removedMessageIds := ["m1"], appliedPipeline := [], segments := [] } },
      .append (userMessage "m6" "pruned" 6), .link "m6"]

/-- A fork of a fork at a message, with transforms: a message that the first fork inherits is removed, and one after
the fork point is not inherited. -/
theorem conversation_fork_pruned : ∃ s record parentMessages inheritedPrefix,
    s.Reached (fun _ => none) ∧ s.conversation (fun _ => none) "mid" = some parentMessages ∧
      prefixAt "mid" (some "m3") parentMessages = some inheritedPrefix ∧
      s.session "pruned" = some record ∧
      s.conversation (fun _ => none) "pruned" =
        (transformed (fun _ => none) record.forkTransforms inheritedPrefix).map (· ++ ownMessages s.store "pruned") ∧
      conversationIds s "mid" = some ["m1", "m3", "m5"] ∧ conversationIds s "pruned" = some ["m3", "m6"] := by
  have hends : (runForks prunedRun).any (fun s =>
      (s.session "pruned").any (fun record => record.parentSessionId = some "mid" &&
        record.forkPointMessageId = some "m3") &&
      (s.session "mid").any (fun record => record.forkTransforms.isNone) && !squashed s.store "mid" &&
      (ownMessages s.store "mid").any (fun message => message.messageId = "m3") &&
      conversationIds s "mid" = some ["m1", "m3", "m5"] &&
      conversationIds s "pruned" = some ["m3", "m6"]) = true := by
    decide +kernel
  obtain ⟨s, hrun, hs⟩ := (Option.any_eq_true _ _).mp hends
  simp only [Bool.and_eq_true, Option.any_eq_true, List.any_eq_true, Option.isNone_iff_eq_none, decide_eq_true_eq,
    Bool.not_eq_true'] at hs
  obtain ⟨⟨⟨⟨⟨⟨record, hrecord, hparent, hpoint⟩, mid, hmid, hplain⟩, hsquashed⟩, hm3⟩, hmidIds⟩, hids⟩ := hs
  have hreached := reached_of_runForks hrun
  obtain ⟨parentMessages, inheritedPrefix, hmessages, hprefix, hpruned⟩ :=
    conversation_fork hreached hrecord hparent hmid (fun transforms h => by rw [hplain] at h; cases h)
      (fun messageId h _ => by
        obtain rfl := Option.some.inj (hpoint.symm.trans h)
        exact hm3)
  rw [hpoint, hsquashed] at hprefix
  exact ⟨s, record, parentMessages, inheritedPrefix, hreached, hmessages, hprefix, hrecord, hpruned, hmidIds, hids⟩

/-- The fork of a fork that was compressed has not the messages that the compressed fork inherits, and a
message that a fork removed is back in a fork of it. -/
theorem not_composes :
    ¬ (∀ s, s.Reached (fun _ => none) → ∀ sessionId, Composes (fun _ => none) s sessionId) ∧
    ∃ s, s.Reached (fun _ => none) ∧ conversationIds s "mid" = some ["m3"] ∧
      conversationIds s "leaf" = some ["m1", "m3", "m4"] := by
  constructor
  · intro h
    have hends : (runForks (forkRun none ++ [.compress "mid" "e" "{}" 5])).any (fun s =>
        (s.session "leaf").any (fun record => record.parentSessionId = some "mid" &&
          record.forkPointMessageId.isNone && record.forkTransforms.isNone) &&
        conversationIds s "mid" = some ["m1", "squash-e"] &&
        conversationIds s "leaf" = some ["squash-e", "m4"]) = true := by
      decide +kernel
    obtain ⟨s, hrun, hs⟩ := (Option.any_eq_true _ _).mp hends
    simp only [Bool.and_eq_true, Option.any_eq_true, Option.isNone_iff_eq_none,
      decide_eq_true_eq] at hs
    obtain ⟨⟨⟨record, hrecord, ⟨hparent, hpoint⟩, htransforms⟩, hmidIds⟩, hleafIds⟩ := hs
    obtain ⟨messages, hmessages, hids⟩ := Option.map_eq_some_iff.mp hmidIds
    have hleaf := h s (reached_of_runForks hrun) "leaf" record "mid" messages messages hrecord hparent
      hmessages (by rw [hpoint]; rfl)
    rw [htransforms, transformed, Option.map_some] at hleaf
    rw [conversationIds, hleaf, Option.map_some, List.map_append, hids] at hleafIds
    simp at hleafIds
  · have hends : (runForks (forkRun (some
        { removedMessageIds := ["m1"], appliedPipeline := [], segments := [] }))).any (fun s =>
          conversationIds s "mid" = some ["m3"] &&
          conversationIds s "leaf" = some ["m1", "m3", "m4"]) = true := by
      decide +kernel
    obtain ⟨s, hrun, hs⟩ := (Option.any_eq_true _ _).mp hends
    simp only [Bool.and_eq_true, decide_eq_true_eq] at hs
    exact ⟨s, reached_of_runForks hrun, hs⟩

end Makaio.Context

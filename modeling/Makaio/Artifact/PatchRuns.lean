import Makaio.Artifact.PatchArtifact
import Makaio.Foundations.Machine

set_option autoImplicit false

/-!
# Concurrent patches of one artifact

Any number of patch calls on one artifact, each stopped at its awaits while others go on.  The host
reads one of the artifact's revisions, which need not be the current one any more, and stores by an
atomic compare-and-swap on the revision that the patch was applied to: only if that is still the
current one, the next revision is appended, with the data and the schema version of the request and
everything else carried over.  Whatever the host reports afterwards may get lost.

## Main definitions

* `PatchWorld` — the artifact's revisions and the calls.
* `PatchWorld.step` — one piece of one call, or the host's compare-and-swap.
* `PatchWorld.NoLostUpdate` — what holds of the revisions and the answers.

## Main results

* `patches_lose_no_update` — it holds in every state that the calls can reach.
-/

namespace Makaio.Artifact

open Foundations

inductive CallPhase
  | started
  | loaded (artifact : ArtifactRevision)
  | storing (artifact : ArtifactRevision) (plan : PatchPlan)
  | returning (artifact : ArtifactRevision) (plan : PatchPlan) (store : HostStore)
  | answered (response : PatchResponse)
  /-- the inspection of the schema did not return -/
  | crashed

structure PatchCall where
  input : PatchRequest
  phase : CallPhase

/-- A revision that a call has stored. -/
structure PatchLink where
  call : ℕ
  revision : ArtifactRevision

/-- The revisions of an artifact, those after the initial one as they were stored, and the calls. -/
structure PatchWorld where
  initial : ArtifactRevision
  links : List PatchLink
  calls : List PatchCall

/-- How the host comes to its answer to a lookup: by the number of a revision that the artifact has had,
by a revision of another artifact, or by none. -/
inductive HostLookup
  | revision (index : ℕ)
  | other (artifact : ArtifactRevision)
  | absent
  | threw (message : String)

/-- What can happen next. -/
inductive PatchAction
  | call (input : PatchRequest)
  | resolveCurrent (call : ℕ) (lookup : HostLookup)
  | listKinds (call : ℕ) (failure : Option String)
  /-- the host stores under a new revision; its report may be lost -/
  | commit (call : ℕ) (revision : String) (failure : Option String)
  | refuse (call : ℕ) (store : HostStore)
  | answer (call : ℕ)

/-- Whether the host reports that it has stored a revision. -/
def HostStore.isStored : HostStore → Bool
  | stored _ => true
  | _ => false

namespace PatchWorld

/-- An artifact that no call has been made on. -/
def start (initial : ArtifactRevision) : PatchWorld :=
  ⟨initial, [], []⟩

/-- The revisions, oldest first. -/
def revisions (w : PatchWorld) : List ArtifactRevision :=
  w.initial :: w.links.map PatchLink.revision

/-- The current revision. -/
def current (w : PatchWorld) : ArtifactRevision :=
  (w.links.getLast?.map PatchLink.revision).getD w.initial

/-- The number of revisions that a call has stored. -/
def linkCount (w : PatchWorld) (c : ℕ) : ℕ :=
  w.links.countP fun link => link.call = c

/-- What the host answers to a lookup. -/
def read (w : PatchWorld) : HostLookup → Option HostRead
  | .revision index => w.revisions[index]?.map .found
  | .other artifact =>
    if artifact.kind = w.initial.kind ∧ artifact.id = w.initial.id then none
    else some (.found artifact)
  | .absent => some .absent
  | .threw message => some (.threw message)

/-- A call goes on to its next phase. -/
def setPhase (w : PatchWorld) (c : ℕ) (call : PatchCall) (phase : CallPhase) : PatchWorld :=
  { w with calls := w.calls.set c { call with phase := phase } }

/-- The host appends a revision. -/
def append (w : PatchWorld) (link : PatchLink) : PatchWorld :=
  { w with links := w.links ++ [link] }

/-- What becomes of a plan. -/
def plannedPhase (input : PatchRequest) (artifact : ArtifactRevision) :
    Option (Except PatchError PatchPlan) → CallPhase
  | none => .crashed
  | some (.error error) => .answered (.failed error)
  | some (.ok plan) =>
    if input.dryRun = some true then .answered (dryRunResponse artifact plan)
    else .storing artifact plan

/-- The revision that the host persists. -/
def nextRevision (request : StoreRequest) (revision : String) : ArtifactRevision :=
  { request.previous with
    revision := revision
    data := request.data
    schemaVersion := request.schemaVersion
    representations := request.representations.getD request.previous.representations }

/-- One piece of one call, or the compare-and-swap of the host. -/
def step (env : PatchEnv) (registrations : List ArtifactKindRegistration)
    (w : PatchWorld) : PatchAction → Option PatchWorld
  | .call input =>
    if input.kind = w.initial.kind ∧ input.id = w.initial.id then
      some { w with calls := w.calls ++ [⟨input, .started⟩] }
    else none
  | .resolveCurrent c lookup =>
    match w.calls[c]? with
    | some ⟨input, .started⟩ =>
      (w.read lookup).map fun read =>
        w.setPhase c ⟨input, .started⟩ (match loadBaseRevision input read with
          | .error error => .answered (.failed error)
          | .ok artifact => .loaded artifact)
    | _ => none
  | .listKinds c failure =>
    match w.calls[c]? with
    | some ⟨input, .loaded artifact⟩ =>
      some (w.setPhase c ⟨input, .loaded artifact⟩
        (match listedKinds (match failure with
          | some message => .threw message
          | none => .listed registrations) with
        | .error error => .answered (.failed error)
        | .ok listed => plannedPhase input artifact (planPatch env input artifact listed)))
    | _ => none
  | .commit c revision failure =>
    match w.calls[c]? with
    | some ⟨input, .storing artifact plan⟩ =>
      let request := storeRequest input artifact plan
      if request.previous.revision = w.current.revision ∧
          revision ∉ w.revisions.map ArtifactRevision.revision then
        let stored := nextRevision request revision
        some ((w.setPhase c ⟨input, .storing artifact plan⟩ (.returning artifact plan
          (match failure with
          | some message => .threw message
          | none => .stored stored))).append ⟨c, stored⟩)
      else none
    | _ => none
  | .refuse c store =>
    match w.calls[c]? with
    | some ⟨input, .storing artifact plan⟩ =>
      if store.isStored then none
      else some (w.setPhase c ⟨input, .storing artifact plan⟩ (.returning artifact plan store))
    | _ => none
  | .answer c =>
    match w.calls[c]? with
    | some ⟨input, .returning artifact plan store⟩ =>
      some (w.setPhase c ⟨input, .returning artifact plan store⟩
        (.answered (finishPatch input artifact plan store)))
    | _ => none

/-! ### What holds of the revisions and the answers -/

/-- A revision that a request makes of another one: by its patch, at a registration that the result
meets. -/
structure IsPatch (env : PatchEnv) (registrations : List ArtifactKindRegistration)
    (input : PatchRequest) (previous stored : ArtifactRevision) : Prop where
  base : previous.revision = input.baseRevision
  wet : input.dryRun ≠ some true
  kind : stored.kind = previous.kind
  id : stored.id = previous.id
  relations : stored.relations = previous.relations
  planned : ∃ plan, Planned env input previous registrations plan ∧
    stored.data = plan.application.data ∧ stored.schemaVersion = plan.registration.schemaVersion

/-- A call has stored a revision in place of another one. -/
def Stored (w : PatchWorld) (c : ℕ) (previous stored : ArtifactRevision) : Prop :=
  ∃ i : ℕ, w.links[i]? = some ⟨c, stored⟩ ∧ w.revisions[i]? = some previous

/-- What holds of a call in its phase. -/
def PhaseHolds (env : PatchEnv) (registrations : List ArtifactKindRegistration) (w : PatchWorld)
    (c : ℕ) (input : PatchRequest) : CallPhase → Prop
  | .started => w.linkCount c = 0
  | .loaded artifact =>
    w.linkCount c = 0 ∧ artifact ∈ w.revisions ∧ artifact.revision = input.baseRevision
  | .storing artifact plan =>
    w.linkCount c = 0 ∧ artifact ∈ w.revisions ∧ artifact.revision = input.baseRevision ∧
      input.dryRun ≠ some true ∧ Planned env input artifact registrations plan
  | .returning artifact _ (.stored stored) => w.linkCount c = 1 ∧ w.Stored c artifact stored
  | .returning _ _ (.threw _) => w.linkCount c ≤ 1
  | .returning _ _ _ => w.linkCount c = 0
  | .answered (.ok base (some ref) _ _) =>
    w.linkCount c = 1 ∧ ∃ previous stored, w.Stored c previous stored ∧ previous.ref = base ∧
      stored.ref = ref
  | .answered (.ok _ none _ _) => w.linkCount c = 0 ∧ input.dryRun = some true
  | .answered (.failed error) =>
    w.linkCount c ≤ 1 ∧ (error.code ≠ .hostFailed → w.linkCount c = 0)
  | .crashed => w.linkCount c = 0

/-- The invariant of the calls. -/
structure Inv (env : PatchEnv) (registrations : List ArtifactKindRegistration) (w : PatchWorld) :
    Prop where
  identity : ∀ r ∈ w.revisions, r.kind = w.initial.kind ∧ r.id = w.initial.id
  inputs : ∀ call ∈ w.calls, call.input.kind = w.initial.kind ∧ call.input.id = w.initial.id
  distinct : (w.revisions.map ArtifactRevision.revision).Nodup
  links : ∀ (i : ℕ) (link : PatchLink), w.links[i]? = some link → ∃ call previous,
    w.calls[link.call]? = some call ∧ w.revisions[i]? = some previous ∧
    IsPatch env registrations call.input previous link.revision
  phases : ∀ (c : ℕ) (call : PatchCall), w.calls[c]? = some call →
    PhaseHolds env registrations w c call.input call.phase

variable {env : PatchEnv} {registrations : List ArtifactKindRegistration} {w w' : PatchWorld}

/-- The current revision is the last one. -/
lemma current_eq (w : PatchWorld) : w.revisions[w.links.length]? = some w.current := by
  rcases List.eq_nil_or_concat w.links with hnil | ⟨rest, last, hlast⟩
  · simp [revisions, current, hnil]
  · simp [revisions, current, hlast]

/-- Revisions with the same identifier are the same. -/
lemma Inv.eq_of_revision (h : Inv env registrations w) {a b : ArtifactRevision}
    (ha : a ∈ w.revisions) (hb : b ∈ w.revisions) (heq : a.revision = b.revision) : a = b :=
  List.inj_on_of_nodup_map h.distinct ha hb heq

variable {i d : ℕ} {previous artifact : ArtifactRevision} {other : PatchCall} {plan : PatchPlan}
  {store : HostStore}

/-- What a list has at an index, a longer one has there. -/
private lemma getElem?_of_prefix {α : Type} {l l' : List α} {x : α} (h : l <+: l') (hx : l[i]? = some x) :
    l'[i]? = some x := by
  obtain ⟨more, rfl⟩ := h
  rw [List.getElem?_append_left (List.getElem?_eq_some_iff.mp hx).1]
  exact hx

/-- The revisions after some more have been stored by other calls than `c`. -/
structure Extends (c : ℕ) (w w' : PatchWorld) : Prop where
  initial : w'.initial = w.initial
  links : ∃ more, w'.links = w.links ++ more ∧ ∀ link ∈ more, link.call ≠ c

variable {c : ℕ} {input : PatchRequest} {phase : CallPhase}

lemma Extends.linkCount (h : Extends c w w') : w'.linkCount c = w.linkCount c := by
  obtain ⟨more, hlinks, hmore⟩ := h.links
  rw [PatchWorld.linkCount, hlinks, List.countP_append, PatchWorld.linkCount]
  have hzero : more.countP (fun link => decide (link.call = c)) = 0 :=
    List.countP_eq_zero.mpr fun link hlink => by simpa using hmore link hlink
  rw [hzero, Nat.add_zero]

lemma Extends.revisions (h : Extends c w w') : w.revisions <+: w'.revisions := by
  obtain ⟨more, hlinks, -⟩ := h.links
  refine ⟨more.map PatchLink.revision, ?_⟩
  rw [PatchWorld.revisions, PatchWorld.revisions, h.initial, hlinks, List.map_append, List.cons_append]

lemma Extends.stored {c : ℕ} (h : Extends c w w') {stored : ArtifactRevision}
    (hstored : w.Stored d previous stored) : w'.Stored d previous stored := by
  obtain ⟨i, hlink, hprevious⟩ := hstored
  obtain ⟨more, hlinks, -⟩ := h.links
  refine ⟨i, ?_, getElem?_of_prefix h.revisions hprevious⟩
  rw [hlinks]
  exact getElem?_of_prefix (List.prefix_append w.links more) hlink

/-- What holds of a call is not affected by what the others store. -/
lemma PhaseHolds.extend (h : Extends c w w') (hphase : PhaseHolds env registrations w c input phase) :
    PhaseHolds env registrations w' c input phase := by
  unfold PhaseHolds at hphase ⊢
  split at hphase <;> simp only [h.linkCount]
  · exact hphase
  · exact ⟨hphase.1, h.revisions.subset hphase.2.1, hphase.2.2⟩
  · exact ⟨hphase.1, h.revisions.subset hphase.2.1, hphase.2.2⟩
  · exact ⟨hphase.1, h.stored hphase.2⟩
  · exact hphase
  · exact hphase
  · obtain ⟨hcount, previous, stored, hstored, hrefs⟩ := hphase
    exact ⟨hcount, previous, stored, h.stored hstored, hrefs⟩
  · exact hphase
  · exact hphase
  · exact hphase

/-! ### Steps -/

/-- A change of a call's phase stores nothing. -/
lemma extends_setPhase (w : PatchWorld) (c d : ℕ) (call : PatchCall) (phase : CallPhase) :
    Extends d w (w.setPhase c call phase) :=
  ⟨rfl, [], (List.append_nil _).symm, by simp⟩

/-- A call that is there keeps its request. -/
lemma getElem?_setPhase {c : ℕ} {call : PatchCall} (hcall : w.calls[c]? = some call)
    (hother : w.calls[d]? = some other) :
    ∃ other', (w.setPhase c call phase).calls[d]? = some other' ∧ other'.input = other.input := by
  by_cases hd : c = d
  · subst hd
    obtain rfl := Option.some.inj (hcall.symm.trans hother)
    have hlt := (List.getElem?_eq_some_iff.mp hcall).1
    exact ⟨{ call with phase := phase }, by simp [setPhase, hlt], rfl⟩
  · exact ⟨other, by simpa [setPhase, List.getElem?_set, hd] using hother, rfl⟩

/-- The calls after one went on: itself in its new phase, and the others. -/
lemma calls_setPhase {c : ℕ} {call : PatchCall} (h : (w.setPhase c call phase).calls[d]? = some other) :
    d = c ∧ other = { call with phase := phase } ∨ d ≠ c ∧ w.calls[d]? = some other := by
  rw [setPhase, List.getElem?_set] at h
  split_ifs at h with hd
  · exact .inl ⟨hd.symm, (Option.some.inj h).symm⟩
  · exact .inr ⟨Ne.symm hd, h⟩

/-- The requests are about the artifact whatever the phases. -/
lemma Inv.inputs_setPhase (h : Inv env registrations w) {call : PatchCall} (hcall : w.calls[c]? = some call)
    (phase : CallPhase) :
    ∀ other ∈ (w.setPhase c call phase).calls,
      other.input.kind = w.initial.kind ∧ other.input.id = w.initial.id := by
  intro other hother
  obtain ⟨d, hd⟩ := List.mem_iff_getElem?.mp hother
  rcases calls_setPhase hd with ⟨rfl, rfl⟩ | ⟨-, hold⟩
  · exact h.inputs call (List.mem_of_getElem? hcall)
  · exact h.inputs other (List.mem_of_getElem? hold)

/-- A call goes on to a phase in which it holds what has to. -/
lemma Inv.setPhase (h : Inv env registrations w) {call : PatchCall} (hcall : w.calls[c]? = some call)
    (hphase : PhaseHolds env registrations w c call.input phase) :
    Inv env registrations (w.setPhase c call phase) where
  identity := h.identity
  inputs := h.inputs_setPhase hcall phase
  distinct := h.distinct
  links := fun i link hlink => by
    obtain ⟨other, previous, hother, hprevious, hpatch⟩ := h.links i link hlink
    obtain ⟨other', hother', hinput⟩ := getElem?_setPhase hcall hother
    exact ⟨other', previous, hother', hprevious, hinput ▸ hpatch⟩
  phases := fun d other hother => by
    rcases calls_setPhase hother with ⟨rfl, rfl⟩ | ⟨-, hold⟩
    · exact hphase.extend (extends_setPhase w _ _ call phase)
    · exact (h.phases d other hold).extend (extends_setPhase w c d call phase)

/-- A new call. -/
lemma Inv.call (h : Inv env registrations w) (hinput : input.kind = w.initial.kind ∧ input.id = w.initial.id) :
    Inv env registrations { w with calls := w.calls ++ [⟨input, .started⟩] } where
  identity := h.identity
  inputs := fun other hother => by
    rcases List.mem_append.mp hother with hother | hother
    · exact h.inputs other hother
    · obtain rfl := List.mem_singleton.mp hother
      exact hinput
  distinct := h.distinct
  links := fun i link hlink => by
    obtain ⟨other, previous, hother, hrest⟩ := h.links i link hlink
    exact ⟨other, previous, getElem?_of_prefix (List.prefix_append _ _) hother, hrest⟩
  phases := fun d other hother => by
    have hextends : Extends d w { w with calls := w.calls ++ [⟨input, .started⟩] } :=
      ⟨rfl, [], (List.append_nil _).symm, by simp⟩
    rw [List.getElem?_append] at hother
    split_ifs at hother with hd
    · exact (h.phases d other hother).extend hextends
    · have hlength : d - w.calls.length = 0 := by
        by_contra hne
        obtain ⟨n, hn⟩ := Nat.exists_eq_succ_of_ne_zero hne
        rw [hn] at hother
        simp at hother
      rw [hlength] at hother
      cases hother
      refine List.countP_eq_zero.mpr fun link hlink heq => hd ?_
      obtain ⟨i, hi⟩ := List.mem_iff_getElem?.mp hlink
      obtain ⟨call, -, hcall, -⟩ := h.links i link hi
      exact of_decide_eq_true heq ▸ (List.getElem?_eq_some_iff.mp hcall).1

lemma revisions_append (w : PatchWorld) (link : PatchLink) :
    (w.append link).revisions = w.revisions ++ [link.revision] := by
  simp [revisions, append]

/-- **A successful compare-and-swap stores a patch of the current revision**: the revision that the
patch was applied to is one that the artifact has had, and has the identifier of the current one. -/
lemma Inv.commit (h : Inv env registrations w) {stored : ArtifactRevision} {revision : String}
    (hcall : w.calls[c]? = some ⟨input, .storing artifact plan⟩)
    (hcurrent : artifact.revision = w.current.revision)
    (hfresh : revision ∉ w.revisions.map ArtifactRevision.revision)
    (hstored : stored = nextRevision (storeRequest input artifact plan) revision)
    (hstore : store = .stored stored ∨ ∃ message, store = .threw message) :
    Inv env registrations ((w.setPhase c ⟨input, .storing artifact plan⟩
      (.returning artifact plan store)).append ⟨c, stored⟩) := by
  obtain ⟨hcount, hmem, hbase, hwet, hplanned⟩ := h.phases c _ hcall
  have hisCurrent : artifact = w.current :=
    h.eq_of_revision hmem (List.mem_of_getElem? (current_eq w)) hcurrent
  have hpatch : IsPatch env registrations input artifact stored := by
    subst hstored
    exact ⟨hbase, hwet, rfl, rfl, rfl, plan, hplanned, rfl, rfl⟩
  have hprevious : (w.revisions ++ [stored])[w.links.length]? = some artifact :=
    getElem?_of_prefix (List.prefix_append _ _) (hisCurrent ▸ current_eq w)
  generalize hw : w.setPhase c ⟨input, .storing artifact plan⟩ (.returning artifact plan store) = v
  have hlinks : (v.append ⟨c, stored⟩).links = w.links ++ [⟨c, stored⟩] := by
    subst hw
    rfl
  have hrevisions : (v.append ⟨c, stored⟩).revisions = w.revisions ++ [stored] := by
    subst hw
    exact revisions_append _ _
  have hcalls : (v.append ⟨c, stored⟩).calls = v.calls := rfl
  have hinitial : (v.append ⟨c, stored⟩).initial = w.initial := by
    subst hw
    rfl
  refine ⟨fun r hr => ?_, fun other hother => ?_, ?_, fun i link hlink => ?_, fun d other hother => ?_⟩
  · rw [hrevisions] at hr
    rw [hinitial]
    rcases List.mem_append.mp hr with hr | hr
    · exact h.identity r hr
    · obtain rfl := List.mem_singleton.mp hr
      exact hpatch.kind ▸ hpatch.id ▸ h.identity artifact hmem
  · rw [hinitial]
    subst hw
    exact h.inputs_setPhase hcall _ other hother
  · rw [hrevisions, List.map_append]
    refine List.nodup_append.mpr ⟨h.distinct, List.nodup_singleton _, ?_⟩
    rintro a ha b hb rfl
    obtain rfl := List.mem_singleton.mp hb
    rw [hstored] at ha
    exact hfresh ha
  · rw [hrevisions, hcalls]
    rw [hlinks, List.getElem?_append] at hlink
    subst hw
    split_ifs at hlink with hi
    · obtain ⟨other, previous, hother, hprevious', hpatch'⟩ := h.links i link hlink
      obtain ⟨other', hother', hinput⟩ := getElem?_setPhase hcall hother
      exact ⟨other', previous, hother', getElem?_of_prefix (List.prefix_append _ _) hprevious',
        hinput ▸ hpatch'⟩
    · obtain rfl : i = w.links.length := by
        have hlt := (List.getElem?_eq_some_iff.mp hlink).1
        simp only [List.length_singleton] at hlt
        omega
      obtain rfl : (⟨c, stored⟩ : PatchLink) = link := by simpa using hlink
      obtain ⟨call', hcall', hinput⟩ := getElem?_setPhase hcall hcall
      exact ⟨call', artifact, hcall', hprevious, hinput ▸ hpatch⟩
  · rw [hcalls] at hother
    have hstoredHere : (v.append ⟨c, stored⟩).Stored c artifact stored :=
      ⟨w.links.length, by rw [hlinks]; simp, hrevisions ▸ hprevious⟩
    have hone : (v.append ⟨c, stored⟩).linkCount c = 1 := by
      rw [linkCount, hlinks, List.countP_append]
      rw [linkCount] at hcount
      simp [hcount]
    have hextends : d ≠ c → Extends d w (v.append ⟨c, stored⟩) := fun hd =>
      ⟨hinitial, [⟨c, stored⟩], hlinks, fun link hlink => by
        obtain rfl := List.mem_singleton.mp hlink
        exact fun heq => hd heq.symm⟩
    subst hw
    rcases calls_setPhase hother with ⟨rfl, rfl⟩ | ⟨hd, hold⟩
    · rcases hstore with rfl | ⟨message, rfl⟩
      · exact ⟨hone, hstoredHere⟩
      · exact hone.le
    · exact (h.phases d other hold).extend (hextends hd)

/-- What holds of a call that could not load its base revision. -/
lemma phaseHolds_loaded (h : Inv env registrations w) (hcall : w.calls[c]? = some ⟨input, .started⟩)
    {lookup : HostLookup} {read : HostRead} (hread : w.read lookup = some read) :
    PhaseHolds env registrations w c input (match loadBaseRevision input read with
      | .error error => .answered (.failed error)
      | .ok artifact => .loaded artifact) := by
  have hcount : w.linkCount c = 0 := h.phases c _ hcall
  split
  · exact ⟨by omega, fun _ => hcount⟩
  · next artifact hload =>
    obtain ⟨rfl, hkind, hid, hrevision⟩ := loadBaseRevision_spec hload
    refine ⟨hcount, ?_, hrevision⟩
    cases lookup with
    | revision index =>
      obtain ⟨r, hr, heq⟩ := Option.map_eq_some_iff.mp hread
      exact HostRead.found.inj heq ▸ List.mem_of_getElem? hr
    | other r =>
      rw [read] at hread
      split_ifs at hread with hidentity
      cases hread
      have hinput := h.inputs _ (List.mem_of_getElem? hcall)
      exact absurd ⟨hkind.trans hinput.1, hid.trans hinput.2⟩ hidentity
    | absent | threw message => cases hread

/-- What holds of a call whose patch was planned. -/
lemma phaseHolds_planned (hloaded : PhaseHolds env registrations w c input (.loaded artifact)) :
    PhaseHolds env registrations w c input
      (plannedPhase input artifact (planPatch env input artifact registrations)) := by
  obtain ⟨hcount, hmem, hbase⟩ := hloaded
  cases hplan : planPatch env input artifact registrations with
  | none => exact hcount
  | some planned =>
    cases planned with
    | error error => exact ⟨by omega, fun _ => hcount⟩
    | ok plan =>
      rw [plannedPhase]
      split_ifs with hdry
      · exact ⟨hcount, hdry⟩
      · exact ⟨hcount, hmem, hbase, hdry, planned_of_planPatch hplan⟩

/-- What holds of a call that has answered what the host reported. -/
lemma phaseHolds_finished
    (hreturning : PhaseHolds env registrations w c input (.returning artifact plan store)) :
    PhaseHolds env registrations w c input (.answered (finishPatch input artifact plan store)) := by
  cases store with
  | stored stored =>
    obtain ⟨hcount, hstored⟩ := hreturning
    rw [finishPatch]
    split
    · next error herror =>
      refine ⟨hcount.le, fun hcode => absurd ?_ hcode⟩
      rw [checkStoredRevision] at herror
      split_ifs at herror
      · exact Option.some.inj herror ▸ rfl
      · exact Option.some.inj herror ▸ rfl
    · exact ⟨hcount, artifact, stored, hstored, rfl, rfl⟩
  | conflict revision | rejected message issues => exact ⟨hreturning.le.trans (by omega), fun _ => hreturning⟩
  | threw message => exact ⟨hreturning, fun hcode => absurd rfl hcode⟩

/-- **Every step keeps the invariant.** -/
theorem Inv.step (h : Inv env registrations w) {action : PatchAction}
    (hstep : PatchWorld.step env registrations w action = some w') : Inv env registrations w' := by
  cases action with
  | call input =>
    rw [PatchWorld.step] at hstep
    split_ifs at hstep with hinput
    exact Option.some.inj hstep ▸ h.call hinput
  | resolveCurrent c lookup =>
    unfold PatchWorld.step at hstep
    dsimp only at hstep
    split at hstep
    · next input hcall =>
      obtain ⟨read, hread, rfl⟩ := Option.map_eq_some_iff.mp hstep
      exact h.setPhase hcall (phaseHolds_loaded h hcall hread)
    · cases hstep
  | listKinds c failure =>
    unfold PatchWorld.step at hstep
    dsimp only at hstep
    split at hstep
    · next input artifact hcall =>
      cases hstep
      have hloaded := h.phases c _ hcall
      refine h.setPhase hcall ?_
      cases failure with
      | some message => exact ⟨hloaded.1.le.trans (by omega), fun _ => hloaded.1⟩
      | none => exact phaseHolds_planned hloaded
    · cases hstep
  | commit c revision failure =>
    unfold PatchWorld.step at hstep
    dsimp only at hstep
    split at hstep
    · next input artifact plan hcall =>
      split_ifs at hstep with hcas
      cases hstep
      refine h.commit hcall hcas.1 hcas.2 rfl ?_
      cases failure with
      | some message => exact .inr ⟨message, rfl⟩
      | none => exact .inl rfl
    · cases hstep
  | refuse c store =>
    unfold PatchWorld.step at hstep
    dsimp only at hstep
    split at hstep
    · next input artifact plan hcall =>
      split_ifs at hstep with hstored
      cases hstep
      have hcount : w.linkCount c = 0 := (h.phases c _ hcall).1
      refine h.setPhase hcall ?_
      cases store with
      | stored stored => exact absurd rfl hstored
      | conflict revision | rejected message issues => exact hcount
      | threw message => exact hcount.le.trans (by omega)
    · cases hstep
  | answer c =>
    unfold PatchWorld.step at hstep
    dsimp only at hstep
    split at hstep
    · next input artifact plan store hcall =>
      cases hstep
      exact h.setPhase hcall (phaseHolds_finished (h.phases c _ hcall))
    · cases hstep

/-! ### No lost update -/

/-- The revisions form a chain of patches, and the answers say what was stored. -/
structure NoLostUpdate (env : PatchEnv) (registrations : List ArtifactKindRegistration)
    (w : PatchWorld) : Prop where
  /-- Each stored revision is the patch of its predecessor by the request of one call. -/
  chain : ∀ (i : ℕ) (link : PatchLink), w.links[i]? = some link → ∃ call previous,
    w.calls[link.call]? = some call ∧ w.revisions[i]? = some previous ∧
      w.revisions[i + 1]? = some link.revision ∧
      IsPatch env registrations call.input previous link.revision
  distinct : (w.revisions.map ArtifactRevision.revision).Nodup
  once : ∀ c, w.linkCount c ≤ 1
  /-- A call that answers that it has succeeded has stored one revision, in place of its base. -/
  succeeded : ∀ (c : ℕ) call base artifact operations migration, w.calls[c]? = some call →
    call.phase = .answered (.ok base artifact operations migration) →
    call.input.dryRun ≠ some true → w.linkCount c = 1 ∧ ∃ previous stored,
      w.Stored c previous stored ∧ previous.ref = base ∧ base.revision = call.input.baseRevision ∧
        artifact = some stored.ref
  dryRun : ∀ (c : ℕ) call, w.calls[c]? = some call → call.input.dryRun = some true →
    w.linkCount c = 0
  failed : ∀ (c : ℕ) call error, w.calls[c]? = some call → call.phase = .answered (.failed error) →
    error.code ≠ .hostFailed → w.linkCount c = 0
  crashed : ∀ (c : ℕ) call, w.calls[c]? = some call → call.phase = .crashed → w.linkCount c = 0
  versions : (w.revisions.map ArtifactRevision.schemaVersion).Pairwise (· ≤ ·)
  meets : ∀ link ∈ w.links, ∃ registration ∈ registrations,
    registration.kind = link.revision.kind ∧
      registration.schemaVersion = link.revision.schemaVersion ∧
      MeetsRegistration env registration link.revision.relations link.revision.data

/-- The successor of a revision is the one stored in its place. -/
lemma revisions_succ {link : PatchLink} (h : w.links[i]? = some link) :
    w.revisions[i + 1]? = some link.revision := by
  simp [revisions, h]

/-- Who stored a revision asked for it. -/
lemma Inv.isPatch_of_stored (h : Inv env registrations w) {call : PatchCall} {stored : ArtifactRevision}
    (hcall : w.calls[c]? = some call) (hstored : w.Stored c previous stored) :
    IsPatch env registrations call.input previous stored := by
  obtain ⟨i, hlink, hprevious⟩ := hstored
  obtain ⟨call', previous', hcall', hprevious', hpatch⟩ := h.links i _ hlink
  cases hcall.symm.trans hcall'
  cases hprevious.symm.trans hprevious'
  exact hpatch

/-- A call that has stored something has a place in the chain. -/
lemma Inv.stored_of_linkCount (h : Inv env registrations w) (hcount : w.linkCount c ≠ 0) :
    ∃ call previous stored, w.calls[c]? = some call ∧ w.Stored c previous stored := by
  obtain ⟨link, hlink, hcall⟩ := List.countP_pos_iff.mp (Nat.pos_of_ne_zero hcount)
  obtain ⟨i, hi⟩ := List.mem_iff_getElem?.mp hlink
  obtain ⟨call, previous, hget, hprevious, -⟩ := h.links i link hi
  obtain rfl := of_decide_eq_true hcall
  exact ⟨call, previous, link.revision, hget, i, hi, hprevious⟩

/-- No call stores twice. -/
lemma Inv.once (h : Inv env registrations w) (c : ℕ) : w.linkCount c ≤ 1 := by
  by_contra hcount
  obtain ⟨call, -, -, hcall, -⟩ := h.stored_of_linkCount (c := c) (by omega)
  have hphase := h.phases c call hcall
  refine hcount ?_
  unfold PhaseHolds at hphase
  split at hphase
  · exact hphase.le.trans (by omega)
  · exact hphase.1.le.trans (by omega)
  · exact hphase.1.le.trans (by omega)
  · exact hphase.1.le
  · exact hphase
  · exact hphase.le.trans (by omega)
  · exact hphase.1.le
  · exact hphase.1.le.trans (by omega)
  · exact hphase.1
  · exact hphase.le.trans (by omega)

/-- **What the invariant says of the revisions and the answers.** -/
theorem Inv.noLostUpdate (h : Inv env registrations w) : NoLostUpdate env registrations w where
  chain := fun i link hlink => by
    obtain ⟨call, previous, hcall, hprevious, hpatch⟩ := h.links i link hlink
    exact ⟨call, previous, hcall, hprevious, revisions_succ hlink, hpatch⟩
  distinct := h.distinct
  once := h.once
  succeeded := fun c call base artifact operations migration hcall hphase hwet => by
    have hholds := h.phases c call hcall
    rw [hphase] at hholds
    cases artifact with
    | none => exact absurd hholds.2 hwet
    | some ref =>
      obtain ⟨hcount, previous, stored, hstored, rfl, rfl⟩ := hholds
      exact ⟨hcount, previous, stored, hstored, rfl, (h.isPatch_of_stored hcall hstored).base, rfl⟩
  dryRun := fun c call hcall hdry => by
    by_contra hcount
    obtain ⟨call', previous, stored, hcall', hstored⟩ := h.stored_of_linkCount hcount
    cases hcall.symm.trans hcall'
    exact (h.isPatch_of_stored hcall hstored).wet hdry
  failed := fun c call error hcall hphase hcode => by
    have hholds := h.phases c call hcall
    rw [hphase] at hholds
    exact hholds.2 hcode
  crashed := fun c call hcall hphase => by
    have hholds := h.phases c call hcall
    rw [hphase] at hholds
    exact hholds
  versions := by
    rw [← List.isChain_iff_pairwise, List.isChain_iff_getElem]
    intro i hi
    rw [List.length_map, revisions, List.length_cons, List.length_map] at hi
    have hlt : i < w.links.length := by omega
    obtain ⟨link, hlink⟩ : ∃ link, w.links[i]? = some link :=
      ⟨w.links[i], List.getElem?_eq_getElem hlt⟩
    obtain ⟨call, previous, -, hprevious, hpatch⟩ := h.links i link hlink
    obtain ⟨plan, hplanned, -, hversion⟩ := hpatch.planned
    have hsucc := (List.getElem?_eq_some_iff.mp (revisions_succ hlink)).2
    have hhere := (List.getElem?_eq_some_iff.mp hprevious).2
    rw [List.getElem_map, List.getElem_map, hsucc, hhere, hversion]
    exact hplanned.forward
  meets := fun link hmem => by
    obtain ⟨i, hlink⟩ := List.mem_iff_getElem?.mp hmem
    obtain ⟨call, previous, -, -, hpatch⟩ := h.links i link hlink
    obtain ⟨plan, hplanned, hdata, hversion⟩ := hpatch.planned
    refine ⟨plan.registration, hplanned.registered, hplanned.kind.trans hpatch.kind.symm,
      hversion.symm, ?_⟩
    rw [hdata, hpatch.relations]
    exact hplanned.meets

/-- Nothing has happened yet. -/
lemma inv_start (initial : ArtifactRevision) : Inv env registrations (start initial) where
  identity := fun r hr => by
    obtain rfl := List.mem_singleton.mp hr
    exact ⟨rfl, rfl⟩
  inputs := by simp [start]
  distinct := by simp [start, revisions]
  links := by simp [start]
  phases := by simp [start]

/-- The states that concurrent patches of an artifact can reach. -/
def Reachable (env : PatchEnv) (registrations : List ArtifactKindRegistration) :
    PatchWorld → Prop :=
  Reach (fun w => ∃ initial, w = start initial) (step env registrations) fun _ _ => True

end PatchWorld

open PatchWorld

/-- **Concurrent patches lose no update**: in every state that they reach, the revisions form one
chain of patches, and each answer says what its call has stored. -/
theorem patches_lose_no_update (env : PatchEnv) (registrations : List ArtifactKindRegistration)
    (w : PatchWorld) (h : Reachable env registrations w) : NoLostUpdate env registrations w := by
  refine Inv.noLostUpdate (Reach.invariant (Inv env registrations) ?_ ?_ h)
  · rintro w ⟨initial, rfl⟩
    exact inv_start initial
  · exact fun _ _ _ hinv _ hstep => hinv.step hstep

/-! ### Two calls on one revision -/

/-- Schemas are checked by the keywords alone. -/
def keywordEnv : PatchEnv where
  compile := fun registration => .ok fun data =>
    if JsonSchema.accepts (dialectOf registration.dataSchema) (.obj registration.dataSchema) 20
      (.obj registration.dataSchema) (.obj data) then []
    else [⟨"", "does not meet the schema", none, none⟩]
  stringify := fun _ => ""
  fuel := 20

/-- The kind with steps, at version 1. -/
def stepsKind : ArtifactKindRegistration :=
  { stepsRegistration with kind := "plan", schemaVersion := 1 }

/-- Its artifact, with a relation that starts at a step. -/
def firstRevision : ArtifactRevision :=
  ⟨"plan", "p", "r1", 1, stepsData, [none, some "first"], none⟩

def appendStep (id : String) : PatchRequest where
  kind := "plan"
  id := "p"
  baseRevision := "r1"
  patch := ⟨none, none, some [("steps", .obj [("id", .str id)])], none, none⟩
  dryRun := none
  schemaVersion := none
  statusPath := none
  representations := none

/-- Two calls patch the same revision; the host stores the first and refuses the second. -/
def twoCalls : List PatchAction :=
  [.call (appendStep "third"), .call (appendStep "fourth"), .resolveCurrent 0 (.revision 0),
    .resolveCurrent 1 (.revision 0), .listKinds 0 none, .listKinds 1 none, .commit 0 "r2" none,
    .refuse 1 (.conflict "r2"), .answer 1, .answer 0]

/-- The two calls lose no update, and one of them has stored its patch. -/
theorem patches_lose_no_update_two :
    ∃ w, NoLostUpdate keywordEnv [stepsKind] w ∧ w.links.map PatchLink.call = [0] := by
  have hrun : ((runGuarded (step keywordEnv [stepsKind]) (fun _ _ => True) (start firstRevision)
      twoCalls).map fun w => w.links.map PatchLink.call) = some [0] := by decide +kernel
  obtain ⟨w, hw, hlinks⟩ := Option.map_eq_some_iff.mp hrun
  exact ⟨w, patches_lose_no_update keywordEnv [stepsKind] w
    (Reach.of_runGuarded twoCalls (.start ⟨firstRevision, rfl⟩) hw), hlinks⟩

end Makaio.Artifact

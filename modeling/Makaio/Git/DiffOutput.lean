import Makaio.Foundations.OrderedMap
import Makaio.Foundations.Text

set_option autoImplicit false

/-!
# The parsers of git's `-z` output

The changes of a commit and of the working tree are read from two outputs of git, each a row of records that
end with NUL: the line counts of the files, and their statuses.  A renamed or copied file takes three records,
any other one the header with its path, or its status and its path.

## Main definitions

* `parseNumStat`, `parseNameStatus`, `getCommitDetails` — of a commit.
* `WorkingTree.parseNumStat`, `WorkingTree.parseRenameMap` — of the working tree.
* `Diff` — what git prints, and `ParsesBack` — the parsers recover it.

## Main results

* `parsesBack` — they do if there is no copy and no tab in a path that shares its record with
  the counts, and with such a tab they do not.
-/

namespace Makaio.Git

open Foundations

/-! ### Parsing -/

/-- `splitNulRecords`. -/
def splitNulRecords (raw : List Char) : List (List Char) :=
  (raw.splitOn '\x00').filter (· ≠ [])

/-- The number that a text starts with, 0 if there is none. -/
def decimal (text : List Char) : ℕ := Nat.ofDigitChars 10 (text.takeWhile Char.isDigit) 0

/-- `parseInt(text, 10) || 0`, and 0 for a hyphen. -/
def parseCount (text : List Char) : ℤ :=
  if text = ['-'] then 0
  else
    match text.dropWhile Text.isSpace with
    | '-' :: digits => -decimal digits
    | '+' :: digits => decimal digits
    | digits => decimal digits

/-- The counts of a header and the text between its second tab and the next one. -/
def numStatHeader (header : List Char) : Option (ℤ × ℤ × List Char) :=
  let fields := header.splitOn '\t'
  let adds := fields.getD 0 []
  let dels := fields.getD 1 []
  if adds = [] ∨ dels = [] then none
  else some (parseCount adds, parseCount dels, fields.getD 2 [])

structure NumStatRow where
  path : List Char
  additions : ℤ
  deletions : ℤ
  oldPath : Option (List Char)

/-- `parseNumStat` on the records. -/
def parseNumStat : List (List Char) → List NumStatRow
  | [] => []
  | header :: rest =>
    let following := parseNumStat rest
    match numStatHeader header with
    | none => following
    | some (additions, deletions, pathToken) =>
      if pathToken ≠ [] then ⟨pathToken, additions, deletions, none⟩ :: following
      else
        match rest with
        | oldPath :: newPath :: rest =>
          ⟨newPath, additions, deletions, some oldPath⟩ :: parseNumStat rest
        | _ => following

structure StatusInfo where
  status : Char
  oldPath : Option (List Char)

/-- What `parseNameStatus` stores, in its order. -/
def nameStatuses : List (List Char) → List (List Char × StatusInfo)
  | [] => []
  | [] :: rest => nameStatuses rest
  | (status :: _) :: rest =>
    if status = 'R' ∨ status = 'C' then
      match rest with
      | oldPath :: newPath :: rest => (newPath, ⟨status, some oldPath⟩) :: nameStatuses rest
      | _ => []
    else
      match rest with
      | path :: rest => (path, ⟨status, none⟩) :: nameStatuses rest
      | [] => []

/-- The map in which entries are stored one after the other. -/
def storeAll {V : Type} (sets : List (List Char × V)) : OrderedMap (List Char) V :=
  sets.foldl (fun m e => m.set e.1 e.2) .empty

/-- `parseNameStatus` on the records. -/
def parseNameStatus (records : List (List Char)) : OrderedMap (List Char) StatusInfo :=
  storeAll (nameStatuses records)

structure ChangedFile where
  path : List Char
  oldPath : Option (List Char)
  status : Char
  additions : ℤ
  deletions : ℤ

structure CommitDetails where
  files : List ChangedFile
  totalAdditions : ℤ
  totalDeletions : ℤ
  changedFiles : ℕ

/-- `getCommitDetails` on the two outputs. -/
def getCommitDetails (nameStatusRaw numStatRaw : List Char) : CommitDetails :=
  let statusMap := parseNameStatus (splitNulRecords nameStatusRaw)
  let entries := parseNumStat (splitNulRecords numStatRaw)
  let files := entries.map fun entry =>
    let info := statusMap.get? entry.path
    { path := entry.path
      oldPath := (info.bind StatusInfo.oldPath).or entry.oldPath
      status := (info.map StatusInfo.status).getD 'M'
      additions := entry.additions
      deletions := entry.deletions : ChangedFile }
  ⟨files, (entries.map NumStatRow.additions).sum, (entries.map NumStatRow.deletions).sum, files.length⟩

namespace WorkingTree

structure FileStats where
  additions : ℤ
  deletions : ℤ

/-- What `parseNumStat` of the working tree stores, in its order. -/
def numStats : List (List Char) → List (List Char × FileStats)
  | [] => []
  | header :: rest =>
    match numStatHeader header with
    | none => numStats rest
    | some (additions, deletions, pathToken) =>
      if pathToken ≠ [] then (pathToken, ⟨additions, deletions⟩) :: numStats rest
      else
        match rest with
        | _ :: newPath :: rest => (newPath, ⟨additions, deletions⟩) :: numStats rest
        | _ => []

/-- `parseNumStat` of the working tree. -/
def parseNumStat (records : List (List Char)) : OrderedMap (List Char) FileStats :=
  storeAll (numStats records)

/-- What `parseRenameMap` stores, in its order. -/
def renames : List (List Char) → List (List Char × List Char)
  | [] => []
  | status :: rest =>
    if status.head? = some 'R' then
      match rest with
      | oldPath :: newPath :: rest => (newPath, oldPath) :: renames rest
      | _ => []
    else
      match rest with
      | _ :: rest => renames rest
      | [] => []

/-- `parseRenameMap` on the records. -/
def parseRenameMap (records : List (List Char)) : OrderedMap (List Char) (List Char) :=
  storeAll (renames records)

end WorkingTree

/-! ### The output of git -/

/-- The paths that a record can hold. -/
abbrev Path := {text : List Char // text ≠ [] ∧ '\x00' ∉ text}

/-- A changed file: its status with a score, and for a rename or copy its source.  A count is missing in a
binary file. -/
structure Entry where
  status : Char
  score : List Char
  source : Option Path
  path : Path
  additions : Option ℕ
  deletions : Option ℕ
  token : '\x00' ∉ status :: score
  source_iff : source.isSome = true ↔ status = 'R' ∨ status = 'C'

/-- The changed files of a diff, each once. -/
structure Diff where
  entries : List Entry
  nodup : (entries.map fun e => e.path.1).Nodup

def count : Option ℕ → List Char
  | none => ['-']
  | some n => Nat.toDigits 10 n

namespace Entry

variable (e : Entry)

/-- The header: the counts, and `text` after the second tab. -/
def header (text : List Char) : List Char := count e.additions ++ '\t' :: (count e.deletions ++ '\t' :: text)

def numStatRecords : List (List Char) :=
  match e.source with
  | none => [e.header e.path]
  | some old => [e.header [], old, e.path]

def nameStatusRecords : List (List Char) :=
  match e.source with
  | none => [e.status :: e.score, e.path]
  | some old => [e.status :: e.score, old, e.path]

/-- The additions, 0 for a binary file. -/
def adds : ℤ := e.additions.getD 0

/-- The deletions, 0 for a binary file. -/
def dels : ℤ := e.deletions.getD 0

/-- Whether the header of the entry is read as it is written. -/
def TabFree : Prop := e.source = none → '\t' ∉ e.path.1

end Entry

/-- Records as git prints them. -/
def render (records : List (List Char)) : List Char := records.flatMap (· ++ ['\x00'])

namespace Diff

variable (diff : Diff)

def numStat : List Char := render (diff.entries.flatMap Entry.numStatRecords)

def nameStatus : List Char := render (diff.entries.flatMap Entry.nameStatusRecords)

end Diff

/-- **The parsers recover a diff**: its rows, its statuses, the counts and the rename sources of the working
tree, and the details of the commit. -/
structure ParsesBack (diff : Diff) : Prop where
  rows : parseNumStat (splitNulRecords diff.numStat) =
    diff.entries.map fun e => ⟨e.path, e.adds, e.dels, e.source.map (↑)⟩
  statuses : (parseNameStatus (splitNulRecords diff.nameStatus)).entries =
    diff.entries.map fun e => (e.path.1, ⟨e.status, e.source.map (↑)⟩)
  stats : (WorkingTree.parseNumStat (splitNulRecords diff.numStat)).entries =
    diff.entries.map fun e => (e.path.1, ⟨e.adds, e.dels⟩)
  renames : (WorkingTree.parseRenameMap (splitNulRecords diff.nameStatus)).entries =
    diff.entries.filterMap fun e => e.source.map fun old => (e.path.1, old.1)
  details : getCommitDetails diff.nameStatus diff.numStat =
    ⟨diff.entries.map fun e => ⟨e.path, e.source.map (↑), e.status, e.adds, e.dels⟩,
      (diff.entries.map Entry.adds).sum, (diff.entries.map Entry.dels).sum, diff.entries.length⟩

/-! ### Recovery -/

/-- The records are read as they were written. -/
theorem splitNulRecords_render {records : List (List Char)} (h : ∀ r ∈ records, r ≠ [] ∧ '\x00' ∉ r) :
    splitNulRecords (render records) = records := by
  induction records with
  | nil => rfl
  | cons r records ih =>
    obtain ⟨hr, hrecords⟩ := List.forall_mem_cons.mp h
    have hsplit : (render (r :: records)).splitOn '\x00' = r :: (render records).splitOn '\x00' := by
      rw [render, List.flatMap_cons, List.append_assoc]
      exact List.splitOn_append_cons_self_of_not_mem hr.2 _
    rw [splitNulRecords, hsplit, List.filter_cons_of_pos (by simpa using hr.1)]
    exact congrArg _ (ih hrecords)

/-- A count is read as it was written, and that of a binary file as zero. -/
theorem parseCount_count (n : Option ℕ) : parseCount (count n) = (n.getD 0 : ℕ) := by
  cases n with
  | none => rfl
  | some n =>
    have hdigits : ∀ c ∈ Nat.toDigits 10 n, c.isDigit = true := fun c hc =>
      Nat.isDigit_of_mem_toDigits (by decide) (by decide) hc
    have hread : decimal (Nat.toDigits 10 n) = n := by
      rw [decimal, List.takeWhile_eq_self_iff.mpr hdigits, Nat.ofDigitChars_ten_toDigits]
    obtain ⟨c, digits, hc⟩ := List.exists_cons_of_ne_nil (@Nat.toDigits_ne_nil n 10)
    have hdigit := hdigits c (by simp [hc])
    have hrange : 48 ≤ c.toNat ∧ c.toNat ≤ 57 := Char.isDigit_iff_toNat.mp hdigit
    have hspace : Text.isSpace c = false := by
      simp only [Text.isSpace, Bool.or_eq_false_iff, Bool.and_eq_false_iff, decide_eq_false_iff_not]
      omega
    rw [count, parseCount, hc, List.dropWhile_cons_of_neg (by simp [hspace])]
    have hminus : c ≠ '-' := by rintro rfl; cases hdigit
    have hplus : c ≠ '+' := by rintro rfl; cases hdigit
    rw [hc] at hread
    simp [hminus, hplus, hread]

/-- What stands in a printed count. -/
theorem not_mem_count {c : Char} (hdigit : c.isDigit = false) (hminus : c ≠ '-') (n : Option ℕ) :
    c ∉ count n := by
  cases n with
  | none => simpa [count] using hminus
  | some n =>
    intro hc
    rw [Nat.isDigit_of_mem_toDigits (by decide) (by decide) hc] at hdigit
    cases hdigit

/-- A count is never empty. -/
theorem count_ne_nil (n : Option ℕ) : count n ≠ [] := by
  cases n with
  | none => decide
  | some n => exact Nat.toDigits_ne_nil

/-- A header is read up to the first tab of the text after the counts. -/
theorem numStatHeader_header (e : Entry) {text first : List Char} {more : List (List Char)}
    (h : text.splitOn '\t' = first :: more) :
    numStatHeader (e.header text) = some (e.adds, e.dels, first) := by
  have htab := not_mem_count (c := '\t') rfl (by decide)
  have hfields : (e.header text).splitOn '\t' = count e.additions :: count e.deletions :: first :: more := by
    rw [Entry.header, List.splitOn_append_cons_self_of_not_mem (htab _),
      List.splitOn_append_cons_self_of_not_mem (htab _), h]
  simp [numStatHeader, hfields, count_ne_nil, parseCount_count, Entry.adds, Entry.dels]

/-- The records of an entry can be told apart. -/
theorem records_entry (e : Entry) : ∀ r ∈ e.numStatRecords ++ e.nameStatusRecords, r ≠ [] ∧ '\x00' ∉ r := by
  have hheader {text : List Char} (h : '\x00' ∉ text) : e.header text ≠ [] ∧ '\x00' ∉ e.header text := by
    simp [Entry.header, not_mem_count (c := '\x00') rfl, h]
  have hpath := e.path.2
  have htoken := e.token
  unfold Entry.numStatRecords Entry.nameStatusRecords
  cases e.source with
  | none => simp_all
  | some old =>
    have hold := old.2
    simp_all

/-- A parser that reads the records of each entry reads those of all. -/
theorem read_flatMap {β : Type} {read : List (List Char) → List β} (hnil : read [] = [])
    (records : Entry → List (List Char)) (result : Entry → List β) {entries : List Entry}
    (h : ∀ e ∈ entries, ∀ rest, read (records e ++ rest) = result e ++ read rest) :
    read (entries.flatMap records) = entries.flatMap result := by
  induction entries with
  | nil => exact hnil
  | cons e entries ih =>
    obtain ⟨he, hentries⟩ := List.forall_mem_cons.mp h
    rw [List.flatMap_cons, he, ih hentries, List.flatMap_cons]

/-- What the two parsers read from an entry whose header is read as it is written. -/
theorem numStat_step {e : Entry} (h : e.TabFree) (rest : List (List Char)) :
    parseNumStat (e.numStatRecords ++ rest) =
        ⟨e.path, e.adds, e.dels, e.source.map (↑)⟩ :: parseNumStat rest ∧
      WorkingTree.numStats (e.numStatRecords ++ rest) =
        (e.path.1, ⟨e.adds, e.dels⟩) :: WorkingTree.numStats rest := by
  unfold Entry.numStatRecords
  cases hs : e.source with
  | none =>
    have hheader := numStatHeader_header e (List.splitOn_eq_singleton (h hs))
    simp [parseNumStat, WorkingTree.numStats, hheader, e.path.2.1]
  | some old =>
    have hheader := @numStatHeader_header e [] [] [] (List.splitOn_nil _)
    simp [parseNumStat, WorkingTree.numStats, hheader]

/-- The records of an entry give its status, and are used up. -/
theorem nameStatus_step (e : Entry) (rest : List (List Char)) :
    nameStatuses (e.nameStatusRecords ++ rest) =
      (e.path.1, ⟨e.status, e.source.map (↑)⟩) :: nameStatuses rest := by
  unfold Entry.nameStatusRecords
  have hiff := e.source_iff
  cases hs : e.source with
  | none =>
    rw [hs] at hiff
    rw [List.cons_append, nameStatuses.eq_def]
    simp_all
  | some old =>
    rw [hs] at hiff
    simp_all [nameStatuses]

/-- The records of an entry that is no copy give its renaming, and are used up. -/
theorem renames_step {e : Entry} (h : e.status ≠ 'C') (rest : List (List Char)) :
    WorkingTree.renames (e.nameStatusRecords ++ rest) =
      (e.source.map fun old => (e.path.1, old.1)).toList ++ WorkingTree.renames rest := by
  unfold Entry.nameStatusRecords
  have hiff := e.source_iff
  cases hs : e.source with
  | none =>
    rw [hs] at hiff
    rw [List.cons_append, WorkingTree.renames.eq_def]
    simp_all
  | some old =>
    rw [hs] at hiff
    simp_all [WorkingTree.renames]

/-- A header with a tab in its path is not read as it is written. -/
theorem tabFree_of_rows {entries : List Entry}
    (h : parseNumStat (entries.flatMap Entry.numStatRecords) =
      entries.map fun e => ⟨e.path, e.adds, e.dels, e.source.map (↑)⟩) : ∀ e ∈ entries, e.TabFree := by
  induction entries with
  | nil => simp
  | cons e entries ih =>
    have hfree : e.TabFree := by
      intro hs htab
      obtain ⟨p, q, hpath, hp⟩ := List.eq_append_cons_of_mem htab
      have hheader : numStatHeader (e.header e.path) = some (e.adds, e.dels, p) :=
        numStatHeader_header e (by rw [hpath, List.splitOn_append_cons_self_of_not_mem hp])
      have hrecords : e.numStatRecords = [e.header e.path] := by rw [Entry.numStatRecords, hs]
      rw [List.flatMap_cons, hrecords, List.singleton_append, List.map_cons, hs] at h
      generalize hrest : entries.flatMap Entry.numStatRecords = rest at h
      by_cases hempty : p = []
      · -- the header is taken for that of a rename
        match rest, hrest with
        | _ :: _ :: _, _ => simp [parseNumStat, hheader, hempty] at h
        | [], _ => simp [parseNumStat, hheader, hempty] at h
        | [record], hrest =>
          have hone : (parseNumStat [record]).length ≤ 1 := by
            unfold parseNumStat
            split <;> [simp [parseNumStat]; (split_ifs <;> simp [parseNumStat])]
          have hread : parseNumStat [e.header e.path, record] = parseNumStat [record] := by
            simp [parseNumStat, hheader, hempty]
          rw [← hread, h] at hone
          cases entries with
          | nil => cases hrest
          | cons => simp at hone
      · have hread : parseNumStat (e.header e.path :: rest) = ⟨p, e.adds, e.dels, none⟩ :: parseNumStat rest := by
          simp [parseNumStat, hheader, hempty]
        have hcut : p = e.path := congrArg NumStatRow.path (List.cons.inj (hread.symm.trans h)).1
        simp [hpath] at hcut
    rw [List.flatMap_cons, (numStat_step hfree _).1, List.map_cons, List.cons.injEq] at h
    exact List.forall_mem_cons.mpr ⟨hfree, ih h.2⟩

/-- Entries under distinct keys are stored as they are. -/
theorem entries_storeAll {V : Type} {sets : List (List Char × V)} (h : (sets.map Prod.fst).Nodup) :
    (storeAll sets).entries = sets :=
  congrArg OrderedMap.entries (OrderedMap.foldl_set_entries ⟨sets, h⟩)

/-- The output of `--numstat` splits into the records of the entries. -/
theorem splitNulRecords_numStat (diff : Diff) :
    splitNulRecords diff.numStat = diff.entries.flatMap Entry.numStatRecords := by
  refine splitNulRecords_render fun r hr => ?_
  obtain ⟨e, -, hr⟩ := List.mem_flatMap.mp hr
  exact records_entry e r (List.mem_append_left _ hr)

/-- The output of `--name-status` splits into the records of the entries. -/
theorem splitNulRecords_nameStatus (diff : Diff) :
    splitNulRecords diff.nameStatus = diff.entries.flatMap Entry.nameStatusRecords := by
  refine splitNulRecords_render fun r hr => ?_
  obtain ⟨e, -, hr⟩ := List.mem_flatMap.mp hr
  exact records_entry e r (List.mem_append_right _ hr)

/-- **The parsers recover a diff** without a copy and without a tab in the path of a file that is not
renamed; with such a tab they do not. -/
theorem parsesBack (diff : Diff) :
    ((∀ e ∈ diff.entries, e.TabFree ∧ e.status ≠ 'C') → ParsesBack diff) ∧
      (ParsesBack diff → ∀ e ∈ diff.entries, e.TabFree) := by
  refine ⟨fun h => ?_, fun h => tabFree_of_rows (splitNulRecords_numStat diff ▸ h.rows)⟩
  have hrows : parseNumStat (splitNulRecords diff.numStat) =
      diff.entries.map fun e => ⟨e.path, e.adds, e.dels, e.source.map (↑)⟩ := by
    rw [splitNulRecords_numStat, List.map_eq_flatMap]
    exact read_flatMap rfl _ _ fun e he rest => (numStat_step (h e he).1 rest).1
  have hstats : WorkingTree.numStats (splitNulRecords diff.numStat) =
      diff.entries.map fun e => (e.path.1, ⟨e.adds, e.dels⟩) := by
    rw [splitNulRecords_numStat, List.map_eq_flatMap]
    exact read_flatMap rfl _ _ fun e he rest => (numStat_step (h e he).1 rest).2
  have hinfos : nameStatuses (splitNulRecords diff.nameStatus) =
      diff.entries.map fun e => (e.path.1, ⟨e.status, e.source.map (↑)⟩) := by
    rw [splitNulRecords_nameStatus, List.map_eq_flatMap]
    exact read_flatMap rfl _ _ fun e _ rest => nameStatus_step e rest
  have hrenames : WorkingTree.renames (splitNulRecords diff.nameStatus) =
      diff.entries.filterMap fun e => e.source.map fun old => (e.path.1, old.1) := by
    rw [splitNulRecords_nameStatus, List.filterMap_eq_flatMap_toList]
    exact read_flatMap rfl _ _ fun e he rest => renames_step (h e he).2 rest
  have hstatuses : (parseNameStatus (splitNulRecords diff.nameStatus)).entries = _ :=
    entries_storeAll (by simpa [hinfos, Function.comp_def] using diff.nodup)
  refine ⟨hrows, hstatuses.trans hinfos, ?_, ?_, ?_⟩
  · rw [← hstats]
    exact entries_storeAll (by simpa [hstats, Function.comp_def] using diff.nodup)
  · rw [← hrenames]
    refine entries_storeAll ?_
    rw [hrenames, List.Nodup, List.pairwise_map, List.pairwise_filterMap]
    refine (List.pairwise_map.mp diff.nodup).imp fun hne row hrow row' hrow' => ?_
    obtain ⟨old, -, rfl⟩ := Option.map_eq_some_iff.mp hrow
    obtain ⟨old', -, rfl⟩ := Option.map_eq_some_iff.mp hrow'
    exact hne
  · have hinfo (e : Entry) (he : e ∈ diff.entries) :
        (parseNameStatus (splitNulRecords diff.nameStatus)).get? e.path =
          some ⟨e.status, e.source.map (↑)⟩ := by
      rw [← OrderedMap.mem_entries_iff, hstatuses, hinfos]
      exact List.mem_map_of_mem he
    simp only [getCommitDetails, hrows, List.map_map, List.length_map, CommitDetails.mk.injEq]
    refine ⟨List.map_congr_left fun e he => ?_, rfl, rfl, trivial⟩
    simp only [Function.comp_apply, hinfo e he, Option.bind_some, Option.or_self, Option.map_some,
      Option.getD_some]

/-- A modified file whose path has a tab in it. -/
def tabbed : Diff :=
  ⟨[⟨'M', [], none, ⟨['a', '\t', 'b'], by decide⟩, some 1, some 0, by decide, by decide⟩], by decide⟩

/-- Its path is cut at the tab. -/
theorem not_parsesBack : ¬ ParsesBack tabbed := fun h =>
  tabFree_of_rows (splitNulRecords_numStat tabbed ▸ h.rows) _ List.mem_cons_self rfl (by decide)

end Makaio.Git

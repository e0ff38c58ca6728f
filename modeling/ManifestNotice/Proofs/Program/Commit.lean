import ManifestNotice.Proofs.Chat.Refusal
import ManifestNotice.Proofs.Commit
import ManifestNotice.Proofs.FileTree.Path
import ManifestNotice.Proofs.Program.Steps

/-!
# Reading the latest commit

The first program of the tool's name on the search path is run, once and with
nothing else, and what it printed is the message if it ended well and printed a
text (`latestCommit_iff`). Whatever else happens is a fault of the commit, and
none of them tells anything of what was printed.
-/

namespace ManifestNotice

open FilePath
open Chat.Refusal (Trimmed trimmed_trim)

namespace Commit

theorem trim_eq_of_trimmed {body text : String} (h : Trimmed body.toList text.toList) :
    Text.trim body = text := by
  obtain ⟨lead, trail, hbody, hblank, hhead, hlast⟩ := h
  obtain ⟨hlead, htrail⟩ := List.forall_mem_append.mp hblank
  have hkept : Text.dropEnd Text.isBlank (body.toList.dropWhile Text.isBlank) = text.toList := by
    rw [hbody, List.dropWhile_append_of_pos hlead]
    cases htext : text.toList with
    | nil =>
      rw [List.nil_append, List.dropWhile_eq_nil_iff.mpr htrail]
      rfl
    | cons c rest =>
      rw [htext] at hhead hlast
      rw [List.cons_append, List.dropWhile_cons_of_neg (by simp [hhead c rfl]), ← List.cons_append]
      exact Text.dropEnd_append htrail hlast
  rw [Text.trim, hkept, String.ofList_toList]

-- ---------------------------------------------------------------------------
-- The search path
-- ---------------------------------------------------------------------------

namespace Place

/-- A file that can be run stands in the directory under the tool's name. -/
def Holds (place : Place) (directory : Bytes) (program : FilePlace) (outcome : Outcome) : Prop :=
  ∃ contents, place.files.resolve place.current (join directory toolName) =
    .ok (program, .file contents (some outcome))

/-- It does in one directory of the search path, and in none before that. -/
def First (place : Place) (program : FilePlace) (outcome : Outcome) : Prop :=
  ∃ before directory after, place.searchPath = before ++ directory :: after ∧
    (∀ other ∈ before, ∀ program outcome, ¬ place.Holds other program outcome) ∧
    place.Holds directory program outcome

/-- Where the path is searched by the system, which is so if the tool is found in
the current directory by an empty entry, every entry can be gone along: to a file
of any kind, a directory, or nothing at all, such as the end of a dangling link. -/
def Searchable (place : Place) : Prop :=
  [] ∈ place.searchPath → ∀ directory ∈ place.searchPath, ∀ cause,
    place.files.resolve place.current (join directory toolName) = .error cause →
      cause = .missing ∨ cause = .notDirectory

section
variable {place : Place} {path directory : Bytes} {program : FilePlace} {outcome : Outcome}

theorem program_eq_ok_iff : place.program path = .ok (program, outcome) ↔
    ∃ contents, place.files.resolve place.current path =
      .ok (program, .file contents (some outcome)) := by
  unfold Place.program
  cases place.files.resolve place.current path with
  | error cause => exact ⟨nofun, fun ⟨_, h⟩ => nomatch h⟩
  | ok found =>
    obtain ⟨spot, node⟩ := found
    cases node with
    | directory | link => exact ⟨nofun, fun ⟨_, h⟩ => nomatch h⟩
    | file contents program =>
      cases program with
      | none => exact ⟨nofun, fun ⟨_, h⟩ => nomatch h⟩
      | some =>
        constructor
        · rintro ⟨⟩
          exact ⟨contents, rfl⟩
        · rintro ⟨_, ⟨⟩⟩
          rfl

theorem isOk_program_iff : (place.program path).isOk ↔
    ∃ program outcome, place.program path = .ok (program, outcome) := by
  cases place.program path with
  | error cause => exact ⟨nofun, fun ⟨_, _, h⟩ => nomatch h⟩
  | ok found => exact ⟨fun _ => ⟨_, _, rfl⟩, fun _ => rfl⟩

theorem passedOver_of_error {cause : SystemError} (h : place.program path = .error cause)
    (hp : ∀ cause, place.files.resolve place.current path = .error cause →
      cause = .missing ∨ cause = .notDirectory) : isPassedOver cause := by
  unfold Place.program at h
  cases hr : place.files.resolve place.current path with
  | error reason =>
    rw [hr] at h
    cases h
    rcases hp _ hr with rfl | rfl <;> rfl
  | ok found =>
    rw [hr] at h
    obtain ⟨spot, node⟩ := found
    rcases node with ⟨_, _ | _⟩ | _ | _ <;> cases h
    all_goals rfl

theorem firstOf_append {before after : List Bytes} (denied : Bool)
    (hb : ∀ other ∈ before, ∃ cause, place.program other = .error cause ∧ isPassedOver cause)
    (hp : place.program path = .ok (program, outcome)) :
    place.firstOf denied (before ++ path :: after) = .ok (program, outcome) := by
  induction before generalizing denied with
  | nil => rw [List.nil_append, firstOf, hp]
  | cons other before ih =>
    obtain ⟨⟨cause, hcause, hpassed⟩, hrest⟩ := List.forall_mem_cons.mp hb
    rw [List.cons_append, firstOf, hcause]
    exact (if_pos hpassed).trans (ih _ hrest)

theorem slash_mem_join {name : FileName} (h : directory ≠ []) : slash ∈ join directory name := by
  have hne : directory.isEmpty = false := List.isEmpty_eq_false_iff.mpr h
  rw [join, hne, Bool.false_or]
  split
  · next hlast => exact List.mem_append_left _ (List.mem_of_getLast? (beq_iff_eq.mp hlast))
  · exact List.mem_append_right _ List.mem_cons_self

theorem start_of_slash (hs : slash ∈ path) (hp : place.program path = .ok (program, outcome)) :
    place.start path = .ok (program, outcome) := by
  have hslash : path.contains slash = true := List.contains_iff_mem.mpr hs
  have hnul : path.contains 0 = false := by
    -- a path with that character leads nowhere
    obtain ⟨contents, hresolve⟩ := program_eq_ok_iff.mp hp
    by_contra hnul
    rw [Bool.not_eq_false] at hnul
    rw [Node.resolve, Node.arrive, if_pos hnul] at hresolve
    cases hresolve
  have hne : path.isEmpty = false := List.isEmpty_eq_false_iff.mpr (List.ne_nil_of_mem hs)
  simp only [start, hnul, hne, hslash, hp, Bool.false_eq_true, if_true, if_false]

end

end Place

section
variable {place : Place} {program : FilePlace} {outcome : Outcome}

open Place

theorem read_of_first (hs : place.Searchable) (h : place.First program outcome) :
    read place none = (messageOf outcome, [⟨program, arguments⟩]) := by
  obtain ⟨before, directory, after, hpath, hbefore, hholds⟩ := h
  have hprogram : place.program (join directory toolName) = .ok (program, outcome) :=
    program_eq_ok_iff.mpr hholds
  have hnot : ∀ other ∈ before, (place.program (join other toolName)).isOk = false := by
    intro other hm
    rw [Bool.eq_false_iff, ne_eq, isOk_program_iff]
    rintro ⟨program, outcome, hfound⟩
    exact hbefore other hm program outcome (program_eq_ok_iff.mp hfound)
  have hwhich : place.which? toolName = some (join directory toolName) := by
    rw [which?, candidates, hpath, List.map_append, List.map_cons,
      List.find?_eq_some_iff_append]
    refine ⟨isOk_program_iff.mpr ⟨_, _, hprogram⟩, _, _, rfl, ?_⟩
    intro path hm
    obtain ⟨other, hother, rfl⟩ := List.mem_map.mp hm
    rw [hnot other hother]
    rfl
  have hstart : place.start (join directory toolName) = .ok (program, outcome) := by
    cases directory with
    | cons => exact start_of_slash (slash_mem_join (List.cons_ne_nil _ _)) hprogram
    | nil =>
      -- a bare name is searched for once more, by the system
      have hall := hs (hpath ▸ List.mem_append_right before List.mem_cons_self)
      show place.firstOf false (place.candidates toolName) = _
      rw [candidates, hpath, List.map_append, List.map_cons]
      refine firstOf_append false ?_ hprogram
      intro path hm
      obtain ⟨other, hother, rfl⟩ := List.mem_map.mp hm
      cases hfound : place.program (join other toolName) with
      | ok found =>
        have := hnot other hother
        rw [hfound] at this
        cases this
      | error cause =>
        refine ⟨cause, rfl, passedOver_of_error hfound (hall other ?_)⟩
        rw [hpath]
        exact List.mem_append_left _ hother
  simp only [read, Option.none_or, hwhich, hstart]

theorem read_of_none (h : ∀ directory ∈ place.searchPath, ∀ program outcome,
    ¬ place.Holds directory program outcome) : read place none = (.error .toolMissing, []) := by
  have hwhich : place.which? toolName = none := by
    rw [which?, candidates, List.find?_eq_none]
    intro path hm
    obtain ⟨directory, hdirectory, rfl⟩ := List.mem_map.mp hm
    rw [isOk_program_iff]
    rintro ⟨program, outcome, hfound⟩
    exact h directory hdirectory program outcome (program_eq_ok_iff.mp hfound)
  simp only [read, Option.none_or, hwhich]

/-- Some directory of the search path is the first that holds the tool, or none
does. -/
theorem first_or_none (place : Place) : (∃ program outcome, place.First program outcome) ∨
    ∀ directory ∈ place.searchPath, ∀ program outcome, ¬ place.Holds directory program outcome := by
  let tried (directory : Bytes) := (place.program (join directory toolName)).isOk
  have hnot (directory : Bytes) (h : ¬ tried directory) (program : FilePlace) (outcome : Outcome) :
      ¬ place.Holds directory program outcome := fun hholds =>
    h (isOk_program_iff.mpr ⟨program, outcome, program_eq_ok_iff.mpr hholds⟩)
  cases hfind : place.searchPath.find? tried with
  | none =>
    rw [List.find?_eq_none] at hfind
    exact .inr fun directory hm => hnot directory (hfind directory hm)
  | some directory =>
    obtain ⟨hok, before, after, hpath, hbefore⟩ := List.find?_eq_some_iff_append.mp hfind
    obtain ⟨program, outcome, hprogram⟩ := isOk_program_iff.mp hok
    refine .inl ⟨program, outcome, before, directory, after, hpath, fun other hm => ?_,
      program_eq_ok_iff.mp hprogram⟩
    exact hnot other (by simpa using hbefore other hm)

end

-- ---------------------------------------------------------------------------
-- Entries of the search path
-- ---------------------------------------------------------------------------

namespace Place

/-- What stands in the directory under the tool's name is no program, or nothing
stands there. -/
def Lacks (place : Place) (directory : Bytes) : Prop :=
  place.files.resolve place.current (join directory toolName) = .error .missing ∨
    ∃ spot node, place.files.resolve place.current (join directory toolName) = .ok (spot, node) ∧
      ∀ contents outcome, node ≠ .file contents (some outcome)

section
variable {place : Place} {directory : Bytes} {program : FilePlace} {outcome : Outcome}

theorem Lacks.not_holds (h : place.Lacks directory) : ¬ place.Holds directory program outcome := by
  rintro ⟨contents, hholds⟩
  rcases h with hmissing | ⟨spot, node, hfound, hnot⟩
  · cases hmissing.symm.trans hholds
  · cases hfound.symm.trans hholds
    exact hnot _ _ rfl

theorem Lacks.eq_missing (h : place.Lacks directory)
    (hc : place.files.resolve place.current (join directory toolName) = .error cause) :
    cause = .missing := by
  rcases h with hmissing | ⟨spot, node, hfound, -⟩
  · exact Except.error.inj (hc.symm.trans hmissing)
  · cases hc.symm.trans hfound

/-- The one directory that holds the tool is the first that does, wherever it
stands on the search path. -/
theorem first_of_lacks (hpath : place.searchPath = before ++ directory :: after)
    (hlacks : ∀ other ∈ before ++ after, place.Lacks other)
    (hholds : place.Holds directory program outcome) :
    place.Searchable ∧ place.First program outcome := by
  constructor
  · intro _ other hm cause hc
    rw [hpath, List.mem_append, List.mem_cons] at hm
    rcases hm with hm | rfl | hm
    · exact .inl ((hlacks other (List.mem_append_left _ hm)).eq_missing hc)
    · obtain ⟨contents, hfound⟩ := hholds
      cases hc.symm.trans hfound
    · exact .inl ((hlacks other (List.mem_append_right _ hm)).eq_missing hc)
  · exact ⟨before, directory, after, hpath,
      fun other hm _ _ => (hlacks other (List.mem_append_left _ hm)).not_holds, hholds⟩

theorem first_of_only (h : place.searchPath = [directory])
    (hholds : place.Holds directory program outcome) :
    place.Searchable ∧ place.First program outcome := by
  have hpath : place.searchPath = [] ++ directory :: [] := h
  exact first_of_lacks hpath (by simp) hholds

variable {entries : List (FileName × Node Outcome)} {name : FileName}

theorem toolName_proper : FileName.Proper toolName := by decide +kernel

theorem join_below (hname : name.Proper) :
    join (slash :: name) toolName = ofPlace ([name] ++ [toolName]) ∧
      (ofPlace ([name] ++ [toolName])).length ≤ pathLimit := by
  have hpath : ofPlace [name] = slash :: name := by simp [ofPlace]
  have hshort : name.length ≤ 255 := hname.short
  constructor
  · rw [← hpath]
    exact join_ofPlace (List.forall_mem_singleton.mpr hname) toolName
  · have htool : toolName.length = 3 := by decide +kernel
    rw [ofPlace_concat, hpath, List.length_append, List.length_cons, List.length_cons, htool,
      pathLimit]
    omega

/-- The way to the tool in a directory right below the top is the way to an entry
of that directory. -/
theorem arrive_below (hname : name.Proper)
    (hat : place.files.at? [name] = some (.directory entries)) :
    place.files.arrive false place.current (join (slash :: name) toolName) =
      place.files.walk false linkLimit false [name] [toolName] := by
  obtain ⟨hpath, hlength⟩ := join_below hname
  rw [hpath]
  exact Node.arrive_entry place.current hat (List.forall_mem_singleton.mpr hname) toolName_proper
    hlength

theorem holds_below (hname : name.Proper)
    (hat : place.files.at? [name] = some (.directory entries))
    (hchild : (Node.directory entries).child? toolName = some (.file contents (some outcome))) :
    place.Holds (slash :: name) [name, toolName] outcome := by
  refine ⟨contents, ?_⟩
  rw [Node.resolve, arrive_below hname hat, Node.walk_entry hat toolName_proper, hchild]
  rfl

theorem holds_current (hat : place.files.at? place.current = some (.directory entries))
    (hchild : (Node.directory entries).child? toolName = some (.file contents (some outcome))) :
    place.Holds [] (place.current ++ [toolName]) outcome := by
  refine ⟨contents, ?_⟩
  show place.files.resolve place.current toolName = _
  rw [Node.resolve, Node.arrive_name _ _ toolName_proper, Node.walk_entry hat toolName_proper,
    hchild]
  rfl

theorem lacks_below {node : Node Outcome} (hname : name.Proper)
    (hat : place.files.at? [name] = some (.directory entries))
    (hchild : (Node.directory entries).child? toolName = some node)
    (hlink : ∀ target, node ≠ .link target)
    (hnot : ∀ contents outcome, node ≠ .file contents (some outcome)) :
    place.Lacks (slash :: name) := by
  refine .inr ⟨[name, toolName], node, ?_, hnot⟩
  rw [Node.resolve, arrive_below hname hat, Node.walk_entry hat toolName_proper, hchild]
  cases node with
  | link target => exact absurd rfl (hlink target)
  | file | directory => rfl

theorem lacks_dangling {target : FileName} (hname : name.Proper)
    (hat : place.files.at? [name] = some (.directory entries))
    (hchild : (Node.directory entries).child? toolName = some (.link target))
    (htarget : target.Proper) (hgone : (Node.directory entries).child? target = none) :
    place.Lacks (slash :: name) := by
  refine .inl ?_
  rw [Node.resolve, arrive_below hname hat, Node.walk_link hat toolName_proper hchild htarget,
    Node.walk_name hat htarget.notDot htarget.notDotDot htarget.short, hgone]
  rfl

theorem lacks_missing (hname : name.Proper) (hat : place.files = .directory entries)
    (hgone : (Node.directory entries).child? name = none) : place.Lacks (slash :: name) := by
  obtain ⟨hpath, hlength⟩ := join_below hname
  have hparts : ∀ part ∈ [name] ++ [toolName], part.Proper := by simp [hname, toolName_proper]
  have htop : place.files.at? [] = some (.directory entries) := congrArg some hat
  refine .inl ?_
  rw [hpath, Node.resolve, Node.arrive_ofPlace place.files place.current hparts hlength,
    List.singleton_append, Node.walk_name htop hname.notDot hname.notDotDot hname.short, hgone]
  rfl

end

end Place

-- ---------------------------------------------------------------------------
-- What is read
-- ---------------------------------------------------------------------------

/-- What comes of reading the latest commit, and the calls that it takes. -/
inductive Place.Reads (place : Place) : Except Fault String → List Call → Prop
  | printed {program outcome text message} : place.First program outcome →
      outcome.exit = .status 0 → outcome.stdout = Utf8.ofString text → IsMessage text message →
      Reads place (.ok message) [⟨program, ["log", "--format=%B", "-n", "1", "HEAD"]⟩]
  | noText {program outcome} : place.First program outcome → outcome.exit = .status 0 →
      (∀ text, outcome.stdout ≠ Utf8.ofString text) →
      Reads place (.error .notText) [⟨program, ["log", "--format=%B", "-n", "1", "HEAD"]⟩]
  | failed {program outcome complaint} : place.First program outcome →
      outcome.exit ≠ .status 0 →
      Trimmed (Utf8.decodeLossy outcome.stderr).toList complaint.toList →
      Reads place (.error (.failed outcome.exit complaint))
        [⟨program, ["log", "--format=%B", "-n", "1", "HEAD"]⟩]
  | missing :
      (∀ directory ∈ place.searchPath, ∀ program outcome,
        ¬ place.Holds directory program outcome) →
      Reads place (.error .toolMissing) []

theorem read_reads {place : Place} (h : place.Searchable) :
    place.Reads (read place none).1 (read place none).2 := by
  rcases first_or_none place with ⟨program, outcome, hfirst⟩ | hnone
  · rw [read_of_first h hfirst]
    by_cases hexit : outcome.exit = .status 0
    · by_cases htext : ∃ text, outcome.stdout = Utf8.ofString text
      · obtain ⟨text, hprinted⟩ := htext
        rw [messageOf_printed hexit hprinted (isMessage_dropEnd text)]
        exact .printed hfirst hexit hprinted (isMessage_dropEnd text)
      · rw [not_exists] at htext
        rw [messageOf_noText hexit htext]
        exact .noText hfirst hexit htext
    · rw [messageOf_failed hexit]
      exact .failed hfirst hexit (trimmed_trim _)
  · rw [read_of_none hnone]
    exact .missing hnone

theorem Place.Reads.read_eq {place : Place} (h : place.Searchable)
    (hr : place.Reads result calls) : read place none = (result, calls) := by
  cases hr with
  | printed hfirst hexit hprinted hmessage =>
    rw [read_of_first h hfirst, messageOf_printed hexit hprinted hmessage]
    rfl
  | noText hfirst hexit htext =>
    rw [read_of_first h hfirst, messageOf_noText hexit htext]
    rfl
  | failed hfirst hexit hcomplaint =>
    rw [read_of_first h hfirst, messageOf_failed hexit, trim_eq_of_trimmed hcomplaint]
    rfl
  | missing hnone => exact read_of_none hnone

end Commit

/-- Reading the latest commit comes to one thing only, and to nothing besides. -/
theorem Machine.latestCommit_iff (machine : Machine) (run : Run) (result : Except Fault String)
    (after : Run) (h : machine.place.Searchable) :
    (machine.latestCommit.run.run run = (result, after) ↔
      ∃ told calls, machine.place.Reads told calls ∧ result = told.mapError .commit ∧
        after = run.called calls) ∧
    ∀ exit complaint, (Fault.commit (.failed exit complaint)).message =
      "Reading latest commit message failed: " ++
        ("git log exited with " ++ exit.describe ++ ": " ++ complaint) := by
  refine ⟨?_, fun _ _ => rfl⟩
  rw [machine.latestCommit_run run]
  constructor
  · rintro ⟨⟩
    exact ⟨_, _, Commit.read_reads h, rfl, rfl⟩
  · rintro ⟨told, calls, hreads, rfl, rfl⟩
    rw [hreads.read_eq h]

/-- The tool in the current directory is found behind all that is none, and of
what it prints the line ends behind it are left out. -/
theorem Machine.reads_in_current_directory :
    let outcome : Commit.Outcome := { stdout := Utf8.ofString "  a\r b\r\n\n" }
    let named (text : String) : FileName := Utf8.ofString text
    let holding (node : Node Commit.Outcome) : Node Commit.Outcome :=
      .directory [(Commit.toolName, node)]
    let files : Node Commit.Outcome := .directory
      [(named "link", holding (.link (named "nowhere"))), (named "folder", holding .empty),
        (named "plain", holding (.file [] none)), (named "here", holding (.file [] (some outcome)))]
    let place : Commit.Place :=
      { files, current := [named "here"]
        searchPath := ["/none", "/link", "/folder", "/plain", "", "/none"].map Utf8.ofString }
    let machine : Machine := { place, environment := [], network := .cutOff }
    let call : Commit.Call :=
      ⟨[named "here", Commit.toolName], ["log", "--format=%B", "-n", "1", "HEAD"]⟩
    let start := { session := { backend := { script := [], clock := 0 } } : Run }
    place.Searchable ∧ place.Reads (.ok "  a\r b") [call] ∧
      machine.latestCommit.run.run start = (.ok "  a\r b", start.called [call]) := by
  intro outcome named holding files place machine call start
  have hproper : ∀ text ∈ ["none", "link", "nowhere", "folder", "plain"], (named text).Proper := by
    decide +kernel
  have hnone : place.Lacks (Utf8.ofString "/none") :=
    Commit.Place.lacks_missing (hproper "none" (by simp)) rfl rfl
  have hlink : place.Lacks (Utf8.ofString "/link") :=
    Commit.Place.lacks_dangling (hproper "link" (by simp)) rfl rfl (hproper "nowhere" (by simp)) rfl
  have hfolder : place.Lacks (Utf8.ofString "/folder") :=
    Commit.Place.lacks_below (hproper "folder" (by simp)) rfl rfl (by rintro _ ⟨⟩)
      (by rintro _ _ ⟨⟩)
  have hplain : place.Lacks (Utf8.ofString "/plain") :=
    Commit.Place.lacks_below (hproper "plain" (by simp)) rfl rfl (by rintro _ ⟨⟩) (by rintro _ _ ⟨⟩)
  have hhere : place.Holds [] [named "here", Commit.toolName] outcome :=
    Commit.Place.holds_current rfl rfl
  have hpath : place.searchPath = ["/none", "/link", "/folder", "/plain"].map Utf8.ofString ++
      [] :: ["/none"].map Utf8.ofString := rfl
  obtain ⟨hsearchable, hfirst⟩ := Commit.Place.first_of_lacks hpath
    (by simp [hnone, hlink, hfolder, hplain]) hhere
  have hmessage : Commit.IsMessage "  a\r b\r\n\n" "  a\r b" :=
    ⟨['\r', '\n', '\n'], by decide +kernel, by simp, by simp⟩
  have hreads : place.Reads (.ok "  a\r b") [call] := .printed hfirst rfl rfl hmessage
  exact ⟨hsearchable, hreads, (machine.latestCommit_iff start _ _ hsearchable).1.mpr
    ⟨_, _, hreads, rfl, rfl⟩⟩

end ManifestNotice

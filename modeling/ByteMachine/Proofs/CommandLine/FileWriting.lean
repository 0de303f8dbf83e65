import ByteMachine.CommandLine.Files
import ByteMachine.Proofs.Assembly.Placement

/-!
# Writing several files

A file that can be written can still be written after others have been, even if it is one of them.
Afterwards each path at which something was written holds what was written there last, and every
other path leads to what it led to before.
-/

namespace ByteMachine

theorem Path.isPrefix_of_isPrefix_enter {above path : Path} {name : Text}
    (isPrefix : above <+: path.enter name) (proper : above ≠ path.enter name) :
    above <+: path := by
  -- The path goes one name up or one name down, or stays.
  have entered (last : Text) (isPrefix : above <+: path ++ [last]) (proper : above ≠ path ++ [last]) :
      above <+: path :=
    (List.prefix_concat_iff.mp isPrefix).resolve_left proper
  rw [enter] at isPrefix proper
  split at isPrefix
  · exact isPrefix
  next moves =>
    rw [if_neg moves] at proper
    split at isPrefix
    next goesUp =>
      rw [if_pos goesUp] at proper
      rw [up] at isPrefix proper
      split at isPrefix
      · exact isPrefix
      next notRoot =>
        rw [if_neg notRoot] at proper
        split at isPrefix
        next isAbove =>
          rw [if_pos isAbove] at proper
          exact entered upName isPrefix proper
        · exact isPrefix.trans (List.dropLast_prefix path)
    next goesDown =>
      rw [if_neg goesDown] at proper
      exact entered name isPrefix proper

namespace Files

variable {files later : Files} {text : Text} {path other : Path}

/-! ## Ways through directories -/

theorem follow_eq_ok_iff {name : Text} {next : Path} :
    files.follow path name = .ok next ↔
      files.node? path = some .directory ∧ (Text.encodeUtf8 name).length ≤ maxNameBytes ∧
        next = path.enter name := by
  rw [follow]
  split
  next absent => simp [absent]
  next bytes isFile => simp [isFile]
  next isDirectory =>
    rw [isDirectory]
    split
    next tooLong => simp; omega
    next fits => simp [eq_comm]; omega

/-- Names that lead somewhere lead there through directories only. -/
theorem node?_of_foldlM_follow {names : List Text} {start : Path}
    (reached : names.foldlM files.follow start = .ok path)
    (directories : ∀ above, above <+: start → above ≠ start → files.node? above = some .directory)
    (above : Path) (isPrefix : above <+: path) (proper : above ≠ path) :
    files.node? above = some .directory := by
  induction names generalizing start with
  | nil =>
      cases reached
      exact directories above isPrefix proper
  | cons name rest induction =>
      rw [List.foldlM_cons, bind_eq_ok_iff] at reached
      obtain ⟨next, followed, reached⟩ := reached
      obtain ⟨isDirectory, -, rfl⟩ := follow_eq_ok_iff.mp followed
      refine induction reached fun above isPrefix proper => ?_
      by_cases isStart : above = start
      · rw [isStart, isDirectory]
      · exact directories above (Path.isPrefix_of_isPrefix_enter isPrefix proper) isStart

theorem node?_of_resolve (resolved : files.resolve text = .ok path) {above : Path}
    (isPrefix : above <+: path) (proper : above ≠ path) : files.node? above = some .directory := by
  rw [resolve] at resolved
  split at resolved
  · cases resolved
  split at resolved
  · cases resolved
  · exact node?_of_foldlM_follow resolved
      (fun above isPrefix proper => absurd (List.prefix_nil.mp isPrefix) proper) above isPrefix proper

/-- A written path leads to the same place as long as directories stay directories. -/
theorem resolve_of_directories (resolved : files.resolve text = .ok path)
    (stay : ∀ place, files.node? place = some .directory → later.node? place = some .directory) :
    later.resolve text = .ok path := by
  have all {names : List Text} {start : Path}
      (reached : names.foldlM files.follow start = .ok path) :
      names.foldlM later.follow start = .ok path := by
    induction names generalizing start with
    | nil => exact reached
    | cons name rest induction =>
        rw [List.foldlM_cons, bind_eq_ok_iff] at reached ⊢
        obtain ⟨next, followed, reached⟩ := reached
        obtain ⟨isDirectory, fits, isNext⟩ := follow_eq_ok_iff.mp followed
        exact ⟨next, follow_eq_ok_iff.mpr ⟨stay _ isDirectory, fits, isNext⟩, induction reached⟩
  rw [resolve] at resolved ⊢
  split at resolved
  · cases resolved
  next solid =>
    rw [if_neg solid]
    split at resolved
    · cases resolved
    next fits =>
      rw [if_neg fits]
      exact all resolved

/-! ## One file -/

/-- A written path leads to where a file can be written: there is one, or its directory is there. -/
def LeadsToFile (files : Files) (text : Text) (path : Path) : Prop :=
  files.resolve text = .ok path ∧ files.node? path ≠ some .directory

/-- The files with a file put at a path. -/
def put (files : Files) (path : Path) (bytes : List Byte) : Files :=
  ⟨Entries.put path (.file bytes) files.entries⟩

theorem write_eq_ok_iff {bytes : List Byte} :
    files.write text bytes = .ok later ↔
      ∃ path, files.LeadsToFile text path ∧ later = files.put path bytes := by
  rw [write, bind_eq_ok_iff]
  refine exists_congr fun path => ?_
  rw [LeadsToFile, and_assoc]
  refine and_congr_right fun _ => ?_
  split
  next isDirectory => simp [isDirectory]
  next noDirectory =>
    have isFile : files.node? path ≠ some .directory := fun isDirectory => noDirectory isDirectory
    simp [isFile, put, eq_comm, pure, Except.pure]

/-- Only the path at which a file is written leads to something else than before. -/
theorem node?_put (resolved : files.resolve text = .ok path) (bytes : List Byte) (other : Path) :
    (files.put path bytes).node? other =
      if other = path then some (.file bytes) else files.node? other := by
  rw [node?, put, Entries.lookup_put]
  by_cases here : other = path
  · rw [if_pos here, if_pos here]
  rw [if_neg here, if_neg here]
  cases known : files.entries.lookup other with
  | some node => rw [node?, known]
  | none =>
      -- A path that is new above the file was on the way to it, and is a directory already.
      have sameAbove : (Entries.put path (FileNode.file bytes) files.entries).any
            (other.isPrefixOf ·.1) =
          (other.isPrefixOf path || files.entries.any (other.isPrefixOf ·.1)) := by
        change List.any _ (other.isPrefixOf ∘ Prod.fst) = (_ || List.any _ (other.isPrefixOf ∘ Prod.fst))
        rw [← List.any_map, ← List.any_map, Bool.eq_iff_iff, Bool.or_eq_true, List.any_eq_true,
          List.any_eq_true]
        simp only [Entries.mem_keys_put, or_and_right, exists_or, exists_eq_left]
      rw [sameAbove]
      by_cases onWay : other <+: path
      · have isDirectory := node?_of_resolve resolved onWay here
        rw [isDirectory]
        simp [List.isPrefixOf_iff_prefix.mpr onWay]
      · rw [node?, known, Bool.eq_false_iff.mpr (mt List.isPrefixOf_iff_prefix.mp onWay)]
        rfl

/-! ## Several files -/

/-- Writes files one after another. -/
def writeAll (files : Files) (deliveries : List (Text × List Byte)) : Except PathFault Files :=
  deliveries.foldlM (fun files delivery => files.write delivery.1 delivery.2) files

theorem writeAll_append_eq_ok_iff {deliveries more : List (Text × List Byte)} :
    files.writeAll (deliveries ++ more) = .ok later ↔
      ∃ middle, files.writeAll deliveries = .ok middle ∧ middle.writeAll more = .ok later := by
  rw [writeAll, List.foldlM_append, bind_eq_ok_iff]
  rfl

theorem writeAll_singleton (text : Text) (bytes : List Byte) :
    files.writeAll [(text, bytes)] = files.write text bytes := by
  rw [writeAll, List.foldlM_cons]
  exact bind_pure _

/-- What is delivered last to a path. -/
def delivered? (files : Files) (path : Path) : List (Text × List Byte) → Option (List Byte)
  | [] => none
  | delivery :: rest =>
      (files.delivered? path rest).or
        (if files.resolve delivery.1 = .ok path then some delivery.2 else none)

theorem delivered?_congr {deliveries : List (Text × List Byte)} (path : Path)
    (same : ∀ delivery ∈ deliveries, later.resolve delivery.1 = files.resolve delivery.1) :
    later.delivered? path deliveries = files.delivered? path deliveries := by
  induction deliveries with
  | nil => rfl
  | cons delivery rest induction =>
      rw [List.forall_mem_cons] at same
      rw [delivered?, delivered?, induction same.2, same.1]

/-- The same paths lead to directories as before. -/
theorem LeadsToFile.node?_put_eq_directory_iff (leads : files.LeadsToFile text path)
    (bytes : List Byte) (place : Path) :
    (files.put path bytes).node? place = some .directory ↔
      files.node? place = some .directory := by
  rw [node?_put leads.1]
  by_cases here : place = path
  · simp [here, leads.2]
  · rw [if_neg here]

/-- Where a file can be written, one can still be written after another. -/
theorem LeadsToFile.put (leads : files.LeadsToFile text path) (bytes : List Byte) {more : Text}
    (leadsMore : files.LeadsToFile more other) : (files.put path bytes).LeadsToFile more other where
  left := resolve_of_directories leadsMore.1 fun place =>
    (leads.node?_put_eq_directory_iff bytes place).mpr
  right := mt (leads.node?_put_eq_directory_iff bytes other).mp leadsMore.2

/-- Files that can be written one by one can be written one after another.  Each path then holds what
was delivered last to it, and the others hold what they held. -/
theorem exists_writeAll {deliveries : List (Text × List Byte)}
    (ready : ∀ delivery ∈ deliveries, ∃ path, files.LeadsToFile delivery.1 path) :
    ∃ later, files.writeAll deliveries = .ok later ∧
      ∀ path, later.node? path =
        ((files.delivered? path deliveries).map FileNode.file).or (files.node? path) := by
  induction deliveries generalizing files with
  | nil => exact ⟨files, rfl, fun path => rfl⟩
  | cons delivery rest induction =>
      obtain ⟨text, bytes⟩ := delivery
      rw [List.forall_mem_cons] at ready
      obtain ⟨⟨path, leads⟩, ready⟩ := ready
      obtain ⟨later, writtenRest, nodes⟩ := induction fun other member =>
        (ready other member).imp fun place => leads.put bytes
      refine ⟨later, ?_, fun place => ?_⟩
      · rw [writeAll, List.foldlM_cons, bind_eq_ok_iff]
        exact ⟨_, write_eq_ok_iff.mpr ⟨path, leads, rfl⟩, writtenRest⟩
      · have sameRest : (files.put path bytes).delivered? place rest =
            files.delivered? place rest := by
          refine delivered?_congr place fun other member => ?_
          obtain ⟨place, leadsMore⟩ := ready other member
          rw [leadsMore.1, (leads.put bytes leadsMore).1]
        rw [nodes, sameRest, node?_put leads.1, delivered?, Option.map_or, Option.or_assoc, leads.1]
        by_cases here : place = path
        · simp [here]
        · rw [if_neg here, if_neg (by simpa using Ne.symm here)]
          rfl

end Files
end ByteMachine

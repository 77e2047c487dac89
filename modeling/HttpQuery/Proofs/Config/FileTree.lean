import HttpQuery.Proofs.Config.Lookup

/-! # Look-ups in a tree of files

A path of plain names leads through directories to what stands under these names. So in a tree the
local file is the one in the working directory, and it is the one that settings are read from,
whatever stands elsewhere.

* `IsPlainName`: the names that lead on to what stands under them.
* `walk_of_plain`: where a path of such names leads.
* `entryAt_localFile`, `load_of_localFile`: the local file of a tree. -/

namespace HttpQuery.FileTree

variable {tree : FileTree} {dirs : UserDirectories}

/-- **A plain name**: it leads on from a directory to what stands under it there. -/
structure IsPlainName (name : String) : Prop where
  ne_empty : name ≠ ""
  ne_dot : name ≠ "."
  ne_dots : name ≠ ".."
  fits : name.utf8ByteSize ≤ maxNameBytes

/-- **A path of plain names leads to what stands under them**, if it only leads on from directories.
-/
theorem walk_of_plain (here : List String) {names : List String}
    (hnames : ∀ name ∈ names, IsPlainName name)
    (hdirectories : ∀ before, before <+: names → before ≠ names →
      tree.node (here ++ before) = .directory) :
    tree.walk here names = tree.node (here ++ names) := by
  induction names generalizing here with
  | nil => rw [walk, List.append_nil]
  | cons name names ih =>
    obtain ⟨hname, hrest⟩ := List.forall_mem_cons.1 hnames
    have hdirectory : tree.node here = .directory := by
      have h := hdirectories [] List.nil_prefix (List.cons_ne_nil _ _).symm
      rwa [List.append_nil] at h
    have hwalk := ih (here ++ [name]) hrest fun before hbefore hne => by
      rw [List.append_assoc]
      exact hdirectories (name :: before) (List.prefix_cons_inj name |>.2 hbefore)
        fun h => hne (List.cons.inj h).2
    rw [walk, hdirectory]
    simp only [hname.ne_empty, hname.ne_dot, hname.ne_dots, Nat.not_lt.2 hname.fits, or_self,
      if_false]
    rw [hwalk, List.append_assoc, List.singleton_append]

/-- **The local file of a tree** is the one in the working directory. -/
theorem entryAt_localFile (h : tree.node tree.workingDirectory = .directory) :
    tree.entryAt localFile = tree.node (tree.workingDirectory ++ [localFile]) := by
  have hplain : IsPlainName localFile := ⟨by decide, by decide, by decide, by decide⟩
  have hparts : (localFile.toList.splitOn '/').map String.ofList = [localFile] := by
    decide +kernel
  have hzero : localFile.toList.contains '\x00' = false := by decide
  have hrelative : localFile.startsWith "/" = false := by decide +kernel
  have hwalk : tree.walk tree.workingDirectory [localFile] =
      tree.node (tree.workingDirectory ++ [localFile]) := by
    refine walk_of_plain _ (List.forall_mem_singleton.2 hplain) fun before hbefore hne => ?_
    cases before with
    | nil => rwa [List.append_nil]
    | cons name before =>
      obtain ⟨rfl, hnil⟩ := List.cons_prefix_cons.1 hbefore
      exact absurd (by rw [List.prefix_nil.1 hnil]) hne
  rw [entryAt, hzero, if_neg Bool.false_ne_true, if_neg hplain.ne_empty, if_neg (by decide)]
  simp only [hparts, hrelative, if_neg Bool.false_ne_true]
  exact hwalk

/-- **The local file of a tree is the one that is read**, whatever stands elsewhere in the tree. -/
theorem load_of_localFile (hdirectory : tree.node tree.workingDirectory = .directory)
    (hfile : (tree.node (tree.workingDirectory ++ [localFile])).isPresent = true) :
    Settings.Gives (tree.node (tree.workingDirectory ++ [localFile]))
      (Settings.load tree.entryAt dirs none) := by
  have hentry := entryAt_localFile hdirectory
  rw [← hentry] at hfile
  have hpaths : searchPaths dirs = [] ++ localFile :: (dirs.configDirectory.map userFile).toList :=
    rfl
  have hload : Settings.load tree.entryAt dirs none = Settings.ofFile tree.entryAt localFile :=
    Settings.load_of_first hpaths nofun hfile
  rw [hload, ← hentry]
  exact Settings.gives_ofFile tree.entryAt localFile

end HttpQuery.FileTree

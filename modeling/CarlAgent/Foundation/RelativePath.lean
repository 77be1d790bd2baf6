import CarlAgent.Foundation.Text

/-!
# Relative paths

A relative path is a text of names joined by `/`.  A name holds no separator,
so a path built name by name can be taken apart again: into its components,
into its parent and its last name, and into the child of a directory below
which it lies.
-/

namespace CarlAgent.Foundation.RelativePath

open List

variable {first second : List Char} {path : String}

def join (parent name : String) : String :=
  if parent = "" then name else parent ++ "/" ++ name

def components (path : String) : List (List Char) :=
  path.toList.splitOn '/'

def names (path : String) : List String :=
  if path = "" then [] else (components path).map String.ofList

def split? (path : String) : Option (String × String) :=
  (Text.rsplitOnce (· == '/') path.toList).map fun parts =>
    (String.ofList parts.1, String.ofList parts.2)

def name (path : String) : String :=
  ((split? path).map Prod.snd).getD path

def parent (path : String) : String :=
  ((split? path).map Prod.fst).getD ""

def separators (path : String) : Nat :=
  path.toList.countP (· == '/')

/-- The number of names; the empty path is the top directory. -/
def depth (path : String) : Nat :=
  if path = "" then 0 else separators path + 1

def Plain (name : String) : Prop := '/' ∉ name.toList

instance (name : String) : Decidable (Plain name) :=
  inferInstanceAs (Decidable ('/' ∉ name.toList))

@[simp] theorem join_empty (name : String) : join "" name = name := by
  simp [join]

variable {parent name : String}

theorem join_of_ne (h : parent ≠ "") (name : String) :
    join parent name = parent ++ "/" ++ name := by
  simp [join, h]

theorem toList_join_of_ne (h : parent ≠ "") (name : String) :
    (join parent name).toList = parent.toList ++ '/' :: name.toList := by
  simp [join_of_ne h, String.toList_append]

theorem join_ne_empty (parent : String) (h : name ≠ "") : join parent name ≠ "" := by
  by_cases hparent : parent = ""
  · simpa [hparent] using h
  · intro heq
    have hlist := congrArg String.toList heq
    simp [toList_join_of_ne hparent] at hlist

theorem components_of_plain (h : Plain name) : components name = [name.toList] :=
  splitOn_eq_singleton h

theorem components_join (hparent : parent ≠ "") (hname : Plain name) :
    components (join parent name) = components parent ++ [name.toList] := by
  simp only [components, toList_join_of_ne hparent, splitOn_append_cons_self]
  rw [splitOn_eq_singleton hname]

theorem names_join (parent : String) (hne : name ≠ "") (hname : Plain name) :
    names (join parent name) = names parent ++ [name] := by
  by_cases hparent : parent = ""
  · simp [hparent, names, hne, components_of_plain hname]
  · simp [names, join_ne_empty parent hne, hparent, components_join hparent hname]

theorem split?_eq_none : split? path = none ↔ Plain path := by
  simp [split?, Text.rsplitOnce_eq_none, Plain, forall_mem_ne']

theorem split?_eq_some {first last : String} : split? path = some (first, last) ↔
    path = first ++ "/" ++ last ∧ Plain last := by
  simp only [split?, Option.map_eq_some_iff, Prod.exists, Text.rsplitOnce_eq_some, beq_iff_eq,
    Prod.mk.injEq]
  constructor
  · rintro ⟨_, _, ⟨_, hpath, rfl, hlast⟩, rfl, rfl⟩
    refine ⟨String.toList_injective ?_, ?_⟩
    · simp [hpath]
    · intro hmem
      simpa using hlast '/' (by simpa using hmem)
  · rintro ⟨rfl, hlast⟩
    refine ⟨first.toList, last.toList, ⟨'/', by simp, rfl, ?_⟩, by simp, by simp⟩
    intro c hc
    exact beq_false_of_ne fun heq => hlast (heq ▸ hc)

theorem split?_join (hparent : parent ≠ "") (hname : Plain name) :
    split? (join parent name) = some (parent, name) :=
  split?_eq_some.mpr ⟨join_of_ne hparent name, hname⟩

theorem name_join (parent : String) (h : Plain name) :
    RelativePath.name (join parent name) = name := by
  by_cases hparent : parent = ""
  · simp [hparent, RelativePath.name, split?_eq_none.mpr h]
  · simp [RelativePath.name, split?_join hparent h]

theorem parent_join (parent : String) (h : Plain name) :
    RelativePath.parent (join parent name) = parent := by
  by_cases hparent : parent = ""
  · simp [hparent, RelativePath.parent, split?_eq_none.mpr h]
  · simp [RelativePath.parent, split?_join hparent h]

/-! ## Proper paths -/

/-- Every component is a name, neither empty nor a reference to the directory
itself or to its parent. -/
def Proper (path : String) : Prop :=
  ∀ component ∈ components path, component ≠ [] ∧ component ≠ ['.'] ∧ component ≠ ['.', '.']

theorem Proper.of_plain (hname : Plain name) (hne : name ≠ "")
    (hdot : name ≠ ".") (hdots : name ≠ "..") : Proper name := by
  intro component hcomponent
  rw [components_of_plain hname, mem_singleton] at hcomponent
  subst hcomponent
  refine ⟨?_, ?_, ?_⟩
  · simpa using hne
  · intro heq
    exact hdot (String.toList_injective heq)
  · intro heq
    exact hdots (String.toList_injective heq)

theorem Proper.join (hparent : parent = "" ∨ Proper parent) (hname : Plain name)
    (hproper : Proper name) : Proper (join parent name) := by
  by_cases hempty : parent = ""
  · simpa [hempty] using hproper
  · have hparent := hparent.resolve_left hempty
    intro component hcomponent
    rw [components_join hempty hname, mem_append] at hcomponent
    rcases hcomponent with hmem | hmem
    · exact hparent component hmem
    · rw [mem_singleton] at hmem
      exact hproper component (by simp [components_of_plain hname, hmem])

theorem Proper.ne_empty (h : Proper path) : path ≠ "" := by
  rintro rfl
  exact (h [] (by decide)).1 rfl

theorem Proper.head_ne (h : Proper path) : path.toList.head? ≠ some '/' := by
  intro hhead
  cases hlist : path.toList with
  | nil => simp [hlist] at hhead
  | cons c rest =>
    simp only [hlist, head?_cons, Option.some.injEq] at hhead
    refine (h [] ?_).1 rfl
    simp [components, hlist, hhead, splitOn_cons_eq_if_modifyHead]

theorem Proper.getLast_ne (h : Proper path) : path.toList.getLast? ≠ some '/' := by
  intro hlast
  obtain ⟨first, hfirst⟩ := getLast?_eq_some_iff.mp hlast
  refine (h [] ?_).1 rfl
  simp [components, hfirst, splitOn_append_cons_self]

theorem Proper.of_split? {first last : String} (h : Proper path)
    (hsplit : split? path = some (first, last)) : Proper first ∧ Proper last := by
  obtain ⟨hpath, hplain⟩ := split?_eq_some.mp hsplit
  have hcomponents : components path = components first ++ components last := by
    simp only [components, hpath, String.toList_append]
    have hseparator : "/".toList = ['/'] := rfl
    rw [hseparator, append_assoc, singleton_append, splitOn_append_cons_self]
  constructor
  · intro component hmem
    exact h component (by simp [hcomponents, hmem])
  · intro component hmem
    exact h component (by simp [hcomponents, hmem])

theorem Proper.foldl_names (h : Proper path) : (names path).foldl RelativePath.join "" = path := by
  induction hlength : path.toList.length using Nat.strong_induction_on
    generalizing path with
  | _ length ih =>
    subst hlength
    cases hsplit : split? path with
    | none =>
      have hplain := split?_eq_none.mp hsplit
      simp [names, h.ne_empty, components_of_plain hplain]
    | some parts =>
      obtain ⟨first, last⟩ := parts
      obtain ⟨hpath, hplain⟩ := split?_eq_some.mp hsplit
      obtain ⟨hfirst, hlast⟩ := h.of_split? hsplit
      have hjoin : path = RelativePath.join first last := by
        rw [hpath, join_of_ne hfirst.ne_empty]
      have hshorter : first.toList.length < path.toList.length := by
        simp [hpath, String.toList_append]
      have hfold := ih _ hshorter hfirst rfl
      rw [hjoin, names_join first hlast.ne_empty hplain, foldl_append, hfold]
      rfl

theorem components_injective : Function.Injective components := by
  intro first second h
  have htext := congrArg ['/'].intercalate h
  simp only [components, intercalate_splitOn] at htext
  exact String.toList_injective htext

theorem separators_of_plain (h : Plain name) : separators name = 0 := by
  rw [separators, countP_eq_zero]
  intro c hc heq
  rw [beq_iff_eq] at heq
  exact h (heq ▸ hc)

theorem separators_join (hparent : parent ≠ "") (hname : Plain name) :
    separators (join parent name) = separators parent + 1 := by
  have hzero := separators_of_plain hname
  simp only [separators] at hzero ⊢
  simp [toList_join_of_ne hparent, countP_append, hzero]

theorem depth_join (parent : String) (hne : name ≠ "") (hname : Plain name) :
    depth (join parent name) = depth parent + 1 := by
  by_cases hparent : parent = ""
  · simp [hparent, depth, hne, separators_of_plain hname]
  · simp [depth, join_ne_empty parent hne, hparent, separators_join hparent hname]

theorem lt_append (first : String) {rest : String} (h : rest ≠ "") : first < first ++ rest := by
  rw [String.lt_iff_toList_lt, String.toList_append]
  cases hrest : rest.toList with
  | nil => exact absurd (String.toList_eq_nil_iff.mp hrest) h
  | cons c tail =>
    generalize first.toList = text
    induction text with
    | nil => exact nil_lt_cons c tail
    | cons d text ih => exact cons_lt_cons_self.mpr ih

theorem parent_lt_join (h : parent ≠ "") (name : String) : parent < join parent name := by
  rw [join_of_ne h, String.append_assoc]
  apply lt_append
  intro heq
  have hlist := congrArg String.toList heq
  simp [String.toList_append] at hlist

/-! ## The child of a directory above a path -/

/-- The path is that of the child, or lies below it. -/
def Within (parent name path : String) : Prop :=
  path = join parent name ∨ ∃ rest, path = join parent name ++ "/" ++ rest

private theorem takeWhile_child {rest : List Char} (h : '/' ∉ first) :
    (first ++ '/' :: rest).takeWhile (· != '/') = first := by
  induction first with
  | nil => simp
  | cons c tail ih =>
    have hc : c ≠ '/' := fun heq => h (by simp [heq])
    have htail : '/' ∉ tail := fun hmem => h (mem_cons_of_mem _ hmem)
    simp [hc, ih htail]

private theorem takeWhile_plain (h : '/' ∉ first) : first.takeWhile (· != '/') = first := by
  rw [takeWhile_eq_self_iff]
  intro c hc
  simp only [bne_iff_ne, ne_eq]
  rintro rfl
  exact h hc

/-- The name of the child can be read off a path within it. -/
private theorem Within.child {parent name : String} (hname : Plain name)
    (h : Within parent name path) :
    (path.toList.drop (join parent "").toList.length).takeWhile (· != '/') = name.toList := by
  have hjoin : ∀ text, (join parent text).toList = (join parent "").toList ++ text.toList := by
    intro text
    by_cases hparent : parent = ""
    · simp [hparent]
    · simp [toList_join_of_ne hparent]
  rcases h with rfl | ⟨rest, rfl⟩
  · rw [hjoin name, drop_left]
    exact takeWhile_plain hname
  · have hseparator : "/".toList = ['/'] := rfl
    rw [String.toList_append, String.toList_append, hjoin name, hseparator, append_assoc,
      append_assoc, drop_left, singleton_append]
    exact takeWhile_child hname

theorem Within.unique {first second : String} (hfirst : Plain first) (hsecond : Plain second)
    (h₁ : Within parent first path) (h₂ : Within parent second path) : first = second := by
  apply String.toList_injective
  rw [← h₁.child hfirst, h₂.child hsecond]

theorem Within.refl (parent name : String) : Within parent name (join parent name) := .inl rfl

theorem Within.child_of_child {inner : String} (hne : join parent name ≠ "")
    (h : Within (join parent name) inner path) : Within parent name path := by
  rcases h with rfl | ⟨rest, rfl⟩
  · exact .inr ⟨inner, by rw [join_of_ne hne]⟩
  · refine .inr ⟨inner ++ "/" ++ rest, ?_⟩
    rw [join_of_ne hne]
    simp [String.append_assoc]

theorem Within.ne_parent (hparent : parent ≠ "") (h : Within parent name path) : path ≠ parent := by
  have hlt : parent < path := by
    rcases h with rfl | ⟨rest, rfl⟩
    · exact parent_lt_join hparent name
    · calc
        parent < join parent name := parent_lt_join hparent name
        _ < join parent name ++ ("/" ++ rest) := by
          apply lt_append
          intro heq
          have hlist := congrArg String.toList heq
          simp [String.toList_append] at hlist
        _ = join parent name ++ "/" ++ rest := by rw [String.append_assoc]
  exact ne_of_gt hlt

/-! ## Below a directory -/

/-- Empty components and dots lead nowhere. -/
def isStep (component : List Char) : Bool :=
  component ≠ [] && component ≠ ['.']

/-- The steps of a path, from the root or from a directory. -/
def steps (path : String) : List (List Char) :=
  (components path).filter isStep

def stripSteps : List (List Char) → List (List Char) → Option (List (List Char))
  | [], rest => some rest
  | _ :: _, [] => none
  | step :: base, component :: rest =>
    if isStep component then if component = step then stripSteps base rest else none
    else stripSteps (step :: base) rest

/-- What is left of an absolute path below an absolute directory, without the
components at its ends that lead nowhere. -/
def stripPrefix (base path : String) : Option String :=
  if base.toList.head? = some '/' then
    (stripSteps (steps base) (components path)).map fun rest =>
      String.ofList (['/'].intercalate ((rest.dropWhile (!isStep ·)).rdropWhile (!isStep ·)))
  else none

theorem slash_notMem_components {component : List Char} (h : component ∈ components path) :
    '/' ∉ component := by
  rw [components] at h
  generalize path.toList = text at h
  induction text generalizing component with
  | nil => simp_all
  | cons c rest ih =>
    rw [splitOn_cons_eq_if_modifyHead] at h
    split at h
    · rcases mem_cons.mp h with rfl | h
      · simp
      · exact ih h
    · cases hsplit : splitOn '/' rest with
      | nil => exact absurd hsplit (splitOn_ne_nil '/' rest)
      | cons piece pieces =>
        rw [hsplit] at h ih
        rcases mem_cons.mp h with rfl | h
        · simp_all [ih mem_cons_self, Ne.symm]
        · exact ih (mem_cons_of_mem _ h)

theorem steps_ofList_intercalate {pieces : List (List Char)} (h : ∀ piece ∈ pieces, '/' ∉ piece) :
    steps (String.ofList (['/'].intercalate pieces)) = pieces.filter isStep := by
  by_cases hnil : pieces = []
  · subst hnil
    rfl
  · rw [steps, components, String.toList_ofList, splitOn_intercalate '/' h hnil]

theorem filter_dropWhile_not (p : List Char → Bool) (l : List (List Char)) :
    (l.dropWhile (!p ·)).filter p = l.filter p := by
  induction l with
  | nil => rfl
  | cons a l ih => cases ha : p a <;> simp [ha, ih]

theorem stripSteps_eq_some {base components rest : List (List Char)}
    (h : stripSteps base components = some rest) :
    components.filter isStep = base ++ rest.filter isStep ∧ rest <:+ components := by
  induction components generalizing base with
  | nil =>
    cases base with
    | nil => cases h; exact ⟨rfl, suffix_rfl⟩
    | cons => cases h
  | cons component components ih =>
    cases base with
    | nil => cases h; exact ⟨rfl, suffix_rfl⟩
    | cons step base =>
      rw [stripSteps] at h
      split at h
      · rename_i hstep
        obtain ⟨rfl, hrest⟩ := Option.ite_none_right_eq_some.mp h
        obtain ⟨hsteps, hsuffix⟩ := ih hrest
        exact ⟨by simp [hstep, hsteps], hsuffix.trans (suffix_cons _ _)⟩
      · rename_i hstep
        obtain ⟨hsteps, hsuffix⟩ := ih h
        exact ⟨by simp [hstep, hsteps], hsuffix.trans (suffix_cons _ _)⟩

theorem steps_of_stripPrefix {base relative : String} (h : stripPrefix base path = some relative) :
    steps path = steps base ++ steps relative := by
  obtain ⟨-, h⟩ := Option.ite_none_right_eq_some.mp h
  obtain ⟨rest, hrest, rfl⟩ := Option.map_eq_some_iff.mp h
  obtain ⟨hsteps, hsuffix⟩ := stripSteps_eq_some hrest
  rw [steps_ofList_intercalate, rdropWhile, filter_reverse, filter_dropWhile_not, ← filter_reverse,
    reverse_reverse, filter_dropWhile_not]
  · exact hsteps
  · intro piece hpiece
    have hmem := (dropWhile_suffix _).subset ( rdropWhile_prefix _ _ |>.subset hpiece)
    exact slash_notMem_components (hsuffix.subset hmem)

end CarlAgent.Foundation.RelativePath

import FormatDaemon.Proofs.PathText

/-!
# Paths in normal form

A path in normal form is a root followed by names that stand for themselves: none is
empty, a dot, two dots, or broken by a slash. Such a path and the list of its names are
the same thing.

* `Path.Proper`: the names that stand for themselves; `Path.rooted`: the path of a list
  of names.
* `names_rooted`, `parent?_rooted`: **a rooted path has these names, and loses the last
  one with its parent**.
* `isNormal_resolve`: **a target seen from an absolute directory is in normal form**.
-/

namespace FormatDaemon.Path

/-! ### Names that stand for themselves -/

/-- A name that stands for itself. -/
structure Proper (n : Name) : Prop where
  ne_nil : n ≠ []
  ne_here : n ≠ [dot]
  ne_up : n ≠ [dot, dot]
  whole : slash ∉ n

theorem not_mem_of_mem_cutAt {separator : UInt8} {bytes : List UInt8} :
    ∀ n ∈ cutAt separator bytes, separator ∉ n := by
  induction bytes with
  | nil => simp [cutAt]
  | cons b rest ih =>
    obtain ⟨name, more, h⟩ := List.exists_cons_of_ne_nil (cutAt_ne_nil separator rest)
    rw [h] at ih
    simp only [cutAt, h]
    intro n hn
    split at hn
    case isTrue =>
      rcases List.mem_cons.1 hn with rfl | hn
      · exact List.not_mem_nil
      · exact ih n hn
    case isFalse hb =>
      rcases List.mem_cons.1 hn with rfl | hn
      · rw [List.mem_cons, not_or]
        exact ⟨fun e => hb e.symm, ih name List.mem_cons_self⟩
      · exact ih n (List.mem_cons_of_mem name hn)

theorem proper_of_part? {m n : Name} (h : part? m = some (.name n)) (hs : slash ∉ m) :
    Proper n := by
  unfold part? at h
  split at h
  case isTrue => cases h
  case isFalse hi =>
    split at h
    case isTrue => cases h
    case isFalse hu =>
      obtain rfl := Part.name.inj (Option.some.inj h)
      simp only [Bool.or_eq_true, decide_eq_true_eq, not_or] at hi
      exact ⟨hi.1, hi.2, hu, hs⟩

/-- The names among the parts of a path are proper. -/
theorem proper_of_mem_parts {p : Path} {n : Name} (h : .name n ∈ p.parts) : Proper n := by
  obtain ⟨m, hm, he⟩ := List.mem_filterMap.1 (mem_filterMap_of_mem_parts h)
  exact proper_of_part? he (not_mem_of_mem_cutAt m hm)

/-- The names on the way to a path. -/
def trail (p : Path) : List Name := p.parts.foldl walk []

theorem proper_of_mem_trail {p : Path} : ∀ n ∈ p.trail, Proper n := by
  intro n hn
  rcases mem_of_mem_walk hn with hn | hn
  · cases hn
  · exact proper_of_mem_parts hn

/-! ### Rooted paths -/

/-- The path of a list of names from the root. -/
def rooted (names : List Name) : Path := ofNames true names

/-- The root. -/
def root : Path := rooted []

@[simp] theorem isAbsolute_rooted (names : List Name) : (rooted names).isAbsolute = true := by
  simp [rooted, ofNames, isAbsolute]

theorem body_rooted (names : List Name) : (rooted names).body = glue names := by
  rw [body, if_pos (isAbsolute_rooted names)]
  rfl

/-- Cutting at slashes undoes gluing. -/
theorem cutAt_glue {names : List Name} (hn : names ≠ []) (h : ∀ n ∈ names, slash ∉ n) :
    cutAt slash (glue names) = names := by
  induction names with
  | nil => exact absurd rfl hn
  | cons name rest ih =>
    have hs := h name List.mem_cons_self
    cases rest with
    | nil =>
      have alone : cutAt slash (name ++ []) = [name ++ []] := cutAt_append hs rfl
      simpa only [glue, List.append_nil] using alone
    | cons next rest =>
      have ih := ih (List.cons_ne_nil _ _) fun n hn => h n (List.mem_cons_of_mem name hn)
      have after : cutAt slash (slash :: glue (next :: rest)) = [] :: next :: rest := by
        rw [cutAt, ih]
        exact if_pos rfl
      rw [glue, cutAt_append hs after, List.append_nil]
      exact List.cons_ne_nil next rest

/-- **The names of a rooted path.** -/
theorem names_rooted {names : List Name} (hn : names ≠ []) (h : ∀ n ∈ names, Proper n) :
    (rooted names).names = names := by
  rw [Path.names, body_rooted]
  exact cutAt_glue hn fun n hm => (h n hm).whole

theorem dropIdle_proper {names : List Name} (h : ∀ n ∈ names, Proper n) :
    dropIdle true names = names := by
  have idle : ∀ first, ∀ n ∈ names, isIdle true first n = false := by
    intro first n hn
    simp [isIdle, (h n hn).ne_nil, (h n hn).ne_here]
  cases names with
  | nil => rfl
  | cons first rest =>
    have kept : rest.reverse.dropWhile (isIdle true false) = rest.reverse := by
      cases hr : rest.reverse with
      | nil => rfl
      | cons n more =>
        have hn : n ∈ rest := List.mem_reverse.1 (hr ▸ List.mem_cons_self)
        rw [List.dropWhile_cons_of_neg]
        rw [idle false n (List.mem_cons_of_mem first hn)]
        exact Bool.false_ne_true
    unfold dropIdle
    simp only [kept, List.reverse_reverse]
    cases rest with
    | nil =>
      simp only [idle true first List.mem_cons_self]
      rfl
    | cons => rfl

theorem parent?_root : root.parent? = none := rfl

/-- **The parent of a rooted path.** -/
theorem parent?_rooted {names : List Name} {last : Name} (h : ∀ n ∈ names ++ [last], Proper n) :
    (rooted (names ++ [last])).parent? = some (rooted names) := by
  have kept := dropIdle_proper h
  have above := dropIdle_proper fun n hn => h n (List.mem_append_left _ hn)
  unfold parent?
  rw [isAbsolute_rooted, names_rooted (by simp) h, kept]
  split
  case h_1 he => simp at he
  case h_2 =>
    rw [List.dropLast_concat, above]
    rfl

/-! ### Normal form -/

/-- A path in normal form. -/
def IsNormal (p : Path) : Prop := ∃ names, p = rooted names ∧ ∀ n ∈ names, Proper n

theorem IsNormal.isAbsolute {p : Path} (h : p.IsNormal) : p.isAbsolute = true := by
  obtain ⟨names, rfl, -⟩ := h
  exact isAbsolute_rooted names

/-- No name of a path in normal form is a dot or two dots. -/
theorem IsNormal.ne_dots {p : Path} (h : p.IsNormal) :
    ∀ n ∈ p.names, n ≠ [dot] ∧ n ≠ [dot, dot] := by
  obtain ⟨names, rfl, proper⟩ := h
  by_cases hn : names = []
  · subst hn
    decide
  · rw [names_rooted hn proper]
    exact fun n hm => ⟨(proper n hm).ne_here, (proper n hm).ne_up⟩

/-- Only the root has no parent. -/
theorem IsNormal.parent?_eq_none_iff {p : Path} (h : p.IsNormal) :
    p.parent? = none ↔ p = root := by
  obtain ⟨names, rfl, proper⟩ := h
  rcases List.eq_nil_or_concat names with rfl | ⟨above, last, rfl⟩
  · exact iff_of_true parent?_root rfl
  · rw [List.concat_eq_append] at proper ⊢
    rw [parent?_rooted proper]
    refine iff_of_false (by simp) fun he => ?_
    have := congrArg parent? he
    rw [parent?_rooted proper, parent?_root] at this
    cases this

theorem isNormal_normal {p : Path} (h : p.isAbsolute = true) : p.normal.IsNormal :=
  ⟨p.trail, by rw [normal, h]; rfl, proper_of_mem_trail⟩

theorem isAbsolute_join {base : Path} (h : base.isAbsolute = true) (p : Path) :
    (base.join p).isAbsolute = true := by
  obtain ⟨bytes⟩ := base
  cases bytes with
  | nil => cases h
  | cons b rest =>
    unfold join
    split
    · assumption
    · split
      · exact h
      · exact h

/-- **A target seen from an absolute directory is in normal form.** -/
theorem isNormal_resolve {base : Path} (h : base.isAbsolute = true) (target : String) :
    (base.resolve target).IsNormal :=
  isNormal_normal (isAbsolute_join h _)

end FormatDaemon.Path

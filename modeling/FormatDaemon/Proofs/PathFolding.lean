import FormatDaemon.Proofs.NormalPath

/-!
# Folding dots away

The normal form of a path is what is left when the path is walked from the root: a name goes
one step down, `..` one step up as far as there is one, and what stands for no step is passed
over. It can be read off a stack of names or built up in a path, and it is its own normal form.

* `Path.settle`: what a piece between slashes does to a stack of names.
* `Path.follow`: what a part does to a path that is built up, one `join` or `parent?` at a time.
* `trail_eq_foldl_settle`, `foldl_follow_rooted`: **both ways come to the normal form**.
* `IsNormal.normal_eq`: **a path in normal form is its own normal form**.
* `resolve_folded`: all of this for a target seen from an absolute directory.
-/

namespace FormatDaemon.Path

/-! ### A stack of names -/

/-- The stack behind a piece of a path: nothing and a dot leave it as it is, two dots take the
last name away if there is one, and anything else is a name on top. -/
def settle (stack : List Name) (piece : Name) : List Name :=
  if piece = [] ∨ piece = [dot] then stack
  else if piece = [dot, dot] then stack.dropLast
  else stack ++ [piece]

/-- A piece does what the part it stands for does. -/
theorem settle_eq (stack : List Name) (piece : Name) :
    settle stack piece = ((part? piece).map (walk stack)).getD stack := by
  have tested : (piece = [] || piece = [dot]) = true ↔ piece = [] ∨ piece = [dot] := by simp
  unfold settle part?
  by_cases idle : piece = [] ∨ piece = [dot]
  · rw [if_pos idle, if_pos (tested.2 idle)]
    rfl
  · rw [if_neg idle, if_neg (mt tested.1 idle)]
    by_cases up : piece = [dot, dot]
    · rw [if_pos up, if_pos up]
      rfl
    · rw [if_neg up, if_neg up]
      rfl

theorem foldl_walk_filterMap (pieces : List Name) (stack : List Name) :
    (pieces.filterMap part?).foldl walk stack = pieces.foldl settle stack := by
  induction pieces generalizing stack with
  | nil => rfl
  | cons piece rest ih =>
    rw [List.foldl_cons, settle_eq, ← ih]
    cases h : part? piece with
    | none => rw [List.filterMap_cons_none h]; rfl
    | some part => rw [List.filterMap_cons_some h]; rfl

/-- An absolute path is a slash and its body. -/
theorem bytes_eq_cons_body {p : Path} (h : p.isAbsolute = true) : p.bytes = slash :: p.body := by
  obtain ⟨bytes⟩ := p
  cases bytes with
  | nil => cases h
  | cons b rest =>
    obtain rfl : b = slash := by simpa [isAbsolute] using h
    rw [body, if_pos h]
    rfl

/-- The pieces of an absolute path are an empty one and its names. -/
theorem cutAt_bytes {p : Path} (h : p.isAbsolute = true) :
    cutAt slash p.bytes = [] :: p.names := by
  obtain ⟨name, more, hn⟩ := List.exists_cons_of_ne_nil (cutAt_ne_nil slash p.body)
  rw [bytes_eq_cons_body h, cutAt, names, hn]
  exact if_pos rfl

theorem parts_of_isAbsolute {p : Path} (h : p.isAbsolute = true) :
    p.parts = .root :: p.names.filterMap part? := by
  unfold parts
  rw [if_pos h]

/-- **The names on the way to an absolute path are what its pieces leave on a stack.** -/
theorem trail_eq_foldl_settle {p : Path} (h : p.isAbsolute = true) :
    p.trail = (cutAt slash p.bytes).foldl settle [] := by
  have first : settle [] [] = [] := rfl
  rw [trail, parts_of_isAbsolute h, List.foldl_cons, walk, foldl_walk_filterMap, cutAt_bytes h,
    List.foldl_cons, first]

theorem normal_eq_rooted {p : Path} (h : p.isAbsolute = true) : p.normal = rooted p.trail := by
  rw [normal, h]
  rfl

/-! ### A path that is built up -/

/-- The path behind a part: the root starts anew, two dots lead to the parent if there is one,
and a name is joined on. -/
def follow (p : Path) : Part → Path
  | .root => p.join root
  | .here => p
  | .up => p.parent?.getD p
  | .name n => p.join ⟨n⟩

theorem glue_concat {names : List Name} (hn : names ≠ []) (last : Name) :
    glue (names ++ [last]) = glue names ++ slash :: last := by
  induction names with
  | nil => exact absurd rfl hn
  | cons name rest ih =>
    cases rest with
    | nil => rfl
    | cons next rest =>
      have below := ih (List.cons_ne_nil next rest)
      show name ++ slash :: glue (next :: rest ++ [last]) =
        (name ++ slash :: glue (next :: rest)) ++ slash :: last
      rw [below, List.append_assoc, List.cons_append]

/-- A proper name ends in something else than a slash. -/
theorem Proper.getLast?_ne_slash {n : Name} (h : Proper n) : n.getLast? ≠ some slash := by
  intro last
  exact h.whole (List.mem_of_getLast? last)

theorem Proper.isAbsolute_eq_false {n : Name} (h : Proper n) :
    (⟨n⟩ : Path).isAbsolute = false := by
  unfold isAbsolute
  rw [decide_eq_false_iff_not]
  intro first
  exact h.whole (List.mem_of_head? first)

/-- Below the root no path with proper names ends in a slash. -/
theorem getLast?_rooted_ne_slash {names : List Name} (hn : names ≠ [])
    (h : ∀ n ∈ names, Proper n) : (rooted names).bytes.getLast? ≠ some slash := by
  obtain ⟨above, last, rfl⟩ := (List.eq_nil_or_concat names).resolve_left hn
  have proper : Proper last := h last (by simp)
  have ends : ∃ front, (rooted (above ++ [last])).bytes = front ++ last := by
    by_cases ha : above = []
    · subst ha
      exact ⟨[slash], rfl⟩
    · refine ⟨slash :: glue above ++ [slash], ?_⟩
      show slash :: glue (above ++ [last]) = _
      rw [glue_concat ha]
      simp
  obtain ⟨front, whole⟩ := ends
  have there : last.getLast? = some (last.getLast proper.ne_nil) := List.getLast?_eq_some_getLast _
  rw [List.concat_eq_append, whole, List.getLast?_append, there, Option.some_or, ← there]
  exact proper.getLast?_ne_slash

/-- A proper name joined on to a rooted path is one name more. -/
theorem join_rooted {names : List Name} {n : Name} (h : ∀ m ∈ names, Proper m) (hn : Proper n) :
    (rooted names).join ⟨n⟩ = rooted (names ++ [n]) := by
  unfold join
  rw [if_neg (by rw [hn.isAbsolute_eq_false]; exact Bool.false_ne_true)]
  by_cases top : names = []
  · subst top
    rfl
  · have ends := getLast?_rooted_ne_slash top h
    have open_end : ¬ ((rooted names).bytes = [] ||
        (rooted names).bytes.getLast? = some slash) = true := by
      simpa [rooted, ofNames] using ends
    rw [if_neg open_end]
    unfold rooted ofNames
    simp only [if_true, glue_concat top, List.cons_append]

/-- Two dots lead one name up, and the root is where they stop. -/
theorem follow_up {names : List Name} (h : ∀ n ∈ names, Proper n) :
    follow (rooted names) .up = rooted names.dropLast := by
  unfold follow
  rcases List.eq_nil_or_concat names with rfl | ⟨above, last, rfl⟩
  · rfl
  · rw [List.concat_eq_append] at h ⊢
    rw [parent?_rooted h, List.dropLast_concat]
    rfl

/-- **One part does to a rooted path what it does to its names.** -/
theorem follow_rooted {names : List Name} (h : ∀ n ∈ names, Proper n) {part : Part}
    (hp : ∀ n, part = .name n → Proper n) (below : part ≠ .root) :
    follow (rooted names) part = rooted (walk names part) ∧ ∀ n ∈ walk names part, Proper n := by
  cases part with
  | root => exact absurd rfl below
  | here => exact ⟨rfl, h⟩
  | up => exact ⟨follow_up h, fun n hn => h n (List.dropLast_subset _ hn)⟩
  | name m =>
    have proper := hp m rfl
    refine ⟨join_rooted h proper, fun n hn => ?_⟩
    rcases List.mem_append.1 hn with hn | hn
    · exact h n hn
    · rw [List.mem_singleton.1 hn]
      exact proper

/-- **Following parts from a rooted path is walking them from its names.** -/
theorem foldl_follow_rooted {ps : List Part} (hp : ∀ n, .name n ∈ ps → Proper n)
    (below : .root ∉ ps) {names : List Name} (h : ∀ n ∈ names, Proper n) :
    ps.foldl follow (rooted names) = rooted (ps.foldl walk names) := by
  induction ps generalizing names with
  | nil => rfl
  | cons part rest ih =>
    obtain ⟨step, proper⟩ := follow_rooted h
      (fun n hn => hp n (hn ▸ List.mem_cons_self)) (List.ne_of_not_mem_cons below).symm
    rw [List.foldl_cons, List.foldl_cons, step]
    exact ih (fun n hn => hp n (List.mem_cons_of_mem part hn))
      (List.not_mem_of_not_mem_cons below) proper

theorem part?_ne_root {piece : Name} : part? piece ≠ some .root := by
  unfold part?
  split
  · simp
  · split <;> simp

/-- An absolute path is followed to its normal form. -/
theorem foldl_follow_parts {p : Path} (h : p.isAbsolute = true) :
    p.parts.foldl follow ⟨[]⟩ = p.normal := by
  have start : follow ⟨[]⟩ .root = rooted [] := rfl
  have below : .root ∉ p.names.filterMap part? := by
    intro hm
    obtain ⟨piece, -, he⟩ := List.mem_filterMap.1 hm
    exact part?_ne_root he
  have proper : ∀ n, .name n ∈ p.names.filterMap part? → Proper n := by
    intro n hn
    refine proper_of_mem_parts (p := p) ?_
    rw [parts_of_isAbsolute h]
    exact List.mem_cons_of_mem _ hn
  rw [normal_eq_rooted h, trail, parts_of_isAbsolute h, List.foldl_cons, start, List.foldl_cons,
    walk]
  exact foldl_follow_rooted proper below (by simp)

/-! ### Folding again -/

theorem settle_proper {stack : List Name} {n : Name} (h : Proper n) :
    settle stack n = stack ++ [n] := by
  unfold settle
  rw [if_neg (not_or.2 ⟨h.ne_nil, h.ne_here⟩), if_neg h.ne_up]

theorem foldl_settle_proper {names : List Name} (h : ∀ n ∈ names, Proper n)
    (stack : List Name) : names.foldl settle stack = stack ++ names := by
  induction names generalizing stack with
  | nil => rw [List.foldl_nil, List.append_nil]
  | cons n rest ih =>
    rw [List.foldl_cons, settle_proper (h n List.mem_cons_self),
      ih fun m hm => h m (List.mem_cons_of_mem n hm), List.append_assoc, List.singleton_append]

/-- The names on the way to a rooted path are its names. -/
theorem trail_rooted {names : List Name} (h : ∀ n ∈ names, Proper n) :
    (rooted names).trail = names := by
  by_cases top : names = []
  · subst top
    rfl
  · have first : settle [] [] = [] := rfl
    rw [trail_eq_foldl_settle (isAbsolute_rooted names), cutAt_bytes (isAbsolute_rooted names),
      List.foldl_cons, first, names_rooted top h, foldl_settle_proper h, List.nil_append]

/-- **A path in normal form is its own normal form.** -/
theorem IsNormal.normal_eq {p : Path} (h : p.IsNormal) : p.normal = p := by
  obtain ⟨names, rfl, proper⟩ := h
  rw [normal_eq_rooted (isAbsolute_rooted names), trail_rooted proper]

/-- An absolute target does not depend on the directory. -/
theorem resolve_of_isAbsolute {target : String} (h : (ofText target).isAbsolute = true)
    (base : Path) : base.resolve target = (ofText target).normal := by
  rw [resolve, join, if_pos h]

/-! ### Targets -/

/-- **A target seen from an absolute directory, folded.** It is in normal form; it is what the
pieces of the joined path leave on a stack above the root, and what following its parts comes
to; an absolute target is the same from everywhere; and seen from a directory that is text, it
is a text that means the same path from everywhere. -/
theorem resolve_folded {cwd : Path} (absolute : cwd.isAbsolute = true) (target : String) :
    let joined := cwd.join (ofText target)
    let file := cwd.resolve target
    file.IsNormal ∧
      file = rooted ((cutAt slash joined.bytes).foldl settle []) ∧
      file = joined.parts.foldl follow ⟨[]⟩ ∧
      ((ofText target).isAbsolute = true → ∀ base : Path, base.resolve target = file) ∧
      (cwd.IsText → ∃ text, file.text? = some text ∧ ∀ base : Path, base.resolve text = file) := by
  intro joined file
  have rooted_join : joined.isAbsolute = true := isAbsolute_join absolute _
  have normal : file.IsNormal := isNormal_resolve absolute target
  refine ⟨normal, ?_, (foldl_follow_parts rooted_join).symm, ?_, ?_⟩
  · rw [← trail_eq_foldl_settle rooted_join]
    exact normal_eq_rooted rooted_join
  · intro whole base
    rw [resolve_of_isAbsolute whole]
    exact (resolve_of_isAbsolute whole cwd).symm
  · intro text
    obtain ⟨spelled, same⟩ := (isText_resolve text target).eq_ofText
    refine ⟨spelled, ?_, fun base => ?_⟩
    · show (cwd.resolve target).text? = some spelled
      rw [same, text?_ofText]
    · have again : (ofText spelled).isAbsolute = true := same ▸ normal.isAbsolute
      rw [resolve_of_isAbsolute again, ← same]
      exact normal.normal_eq

/-- More climbing than there are names ends at the root, and slashes add nothing. -/
theorem resolve_folded_climb :
    (ofText "/p/q").resolve "../.././..//x/./y/../" = ofText "/x" ∧
      ∀ base : Path, base.resolve "/x" = ofText "/x" := by
  have absolute : (ofText "/p/q").isAbsolute = true := by decide
  obtain ⟨-, folded, -, -, again⟩ := resolve_folded absolute "../.././..//x/./y/../"
  have file : (ofText "/p/q").resolve "../.././..//x/./y/../" = ofText "/x" := by
    rw [folded]
    decide
  obtain ⟨text, spelled, same⟩ := again (isText_ofText "/p/q")
  rw [file, text?_ofText] at spelled
  obtain rfl := Option.some.inj spelled
  refine ⟨file, fun base => ?_⟩
  rw [same base, file]

end FormatDaemon.Path

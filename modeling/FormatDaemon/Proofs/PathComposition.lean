import FormatDaemon.Proofs.PathFolding

/-!
# One step or two

A target may be named in one step, or from a directory that was itself named from another
one. The names on the way are the same, because a walk along a path that has been folded ends
where the walk along the path itself ends.

* `Path.descend`: the walk along the bytes of a path, from a stack of names.
* `descend_append_slash`, `trail_join`: **a walk along two paths is one walk behind the other**.
* `normal_join_normal`: **a path may be folded before another is joined on**.
* `resolve_resolve`: **a target behind a directory is the target seen from it**.
-/

namespace FormatDaemon.Path

/-! ### Walking along bytes -/

/-- The stack of names behind the pieces of a byte string. -/
def descend (stack : List Name) (bytes : List UInt8) : List Name :=
  (cutAt slash bytes).foldl settle stack

theorem trail_eq_descend {p : Path} (h : p.isAbsolute = true) : p.trail = descend [] p.bytes :=
  trail_eq_foldl_settle h

/-- Bytes are cut at a separator wherever it stands. -/
theorem cutAt_append_cons (separator : UInt8) (before after : List UInt8) :
    cutAt separator (before ++ separator :: after) =
      cutAt separator before ++ cutAt separator after := by
  -- the last piece of the one side is whole, since the separator ends it
  induction before with
  | nil =>
    obtain ⟨name, more, hc⟩ := List.exists_cons_of_ne_nil (cutAt_ne_nil separator after)
    simp only [List.nil_append, cutAt, hc, if_true]
    rfl
  | cons b rest ih =>
    obtain ⟨name, more, hc⟩ := List.exists_cons_of_ne_nil (cutAt_ne_nil separator rest)
    rw [hc, List.cons_append] at ih
    simp only [List.cons_append, cutAt, ih, hc]
    split <;> rfl

/-- **A walk along two byte strings with a slash between them is one behind the other.** -/
theorem descend_append_slash (stack : List Name) (before after : List UInt8) :
    descend stack (before ++ slash :: after) = descend (descend stack before) after := by
  unfold descend
  rw [cutAt_append_cons, List.foldl_append]

/-- A slash at the end leads nowhere. -/
theorem descend_slash (stack : List Name) (bytes : List UInt8) :
    descend stack (bytes ++ [slash]) = descend stack bytes := by
  have nowhere : ∀ names, descend names [] = names := fun _ => rfl
  rw [descend_append_slash, nowhere]

/-! ### Joining -/

/-- **The way to a relative path goes on where the way to the directory ends.** -/
theorem trail_join {p q : Path} (hp : p.isAbsolute = true) (hq : q.isAbsolute = false) :
    (p.join q).trail = descend p.trail q.bytes := by
  rw [trail_eq_descend (isAbsolute_join hp q), trail_eq_descend hp]
  unfold join
  rw [if_neg (by rw [hq]; exact Bool.false_ne_true)]
  split
  case isTrue ends =>
    -- the slash between the two is the last byte of the directory
    have nonempty : p.bytes ≠ [] := by
      rw [bytes_eq_cons_body hp]
      exact List.cons_ne_nil _ _
    have last : p.bytes.getLast? = some slash := by simpa [nonempty] using ends
    obtain ⟨front, hf⟩ := List.getLast?_eq_some_iff.1 last
    rw [hf, descend_slash, List.append_assoc, List.singleton_append, descend_append_slash]
  case isFalse => exact descend_append_slash [] p.bytes q.bytes

theorem trail_normal {p : Path} (h : p.isAbsolute = true) : p.normal.trail = p.trail := by
  rw [normal_eq_rooted h, trail_rooted proper_of_mem_trail]

/-- **A path may be folded before another is joined on.** -/
theorem normal_join_normal {p q : Path} (hp : p.isAbsolute = true) (hq : q.isAbsolute = false) :
    (p.normal.join q).normal = (p.join q).normal := by
  have folded : p.normal.isAbsolute = true := (isNormal_normal hp).isAbsolute
  rw [normal_eq_rooted (isAbsolute_join folded q), normal_eq_rooted (isAbsolute_join hp q),
    trail_join folded hq, trail_join hp hq, trail_normal hp]

/-- What stands behind a path stands behind it wherever it is seen from. -/
theorem join_append (base : Path) {bytes : List UInt8} (h : bytes ≠ []) (more : List UInt8) :
    base.join ⟨bytes ++ more⟩ = ⟨(base.join ⟨bytes⟩).bytes ++ more⟩ := by
  -- the first byte decides whether the base counts, and it is the same
  have rooted : (⟨bytes ++ more⟩ : Path).isAbsolute = (⟨bytes⟩ : Path).isAbsolute := by
    obtain ⟨b, rest, rfl⟩ := List.exists_cons_of_ne_nil h
    rfl
  unfold join
  rw [rooted]
  split
  · rfl
  · split
    · rw [List.append_assoc]
    · rw [List.append_assoc, List.cons_append]

/-- The names on the way to a target behind a directory are those behind the directory's. -/
theorem trail_join_slash {base : Path} (h : base.isAbsolute = true) {bytes : List UInt8}
    (hb : bytes ≠ []) (more : List UInt8) :
    (base.join ⟨bytes ++ slash :: more⟩).trail = descend (base.join ⟨bytes⟩).trail more := by
  rw [trail_eq_descend (isAbsolute_join h _), trail_eq_descend (isAbsolute_join h _),
    join_append base hb, descend_append_slash]

/-! ### Targets -/

/-- A text is a path from the root just if it starts with a slash. -/
theorem isAbsolute_ofText (text : String) :
    (ofText text).isAbsolute = true ↔ text.toList.head? = some '/' := by
  unfold isAbsolute ofText Utf8.encode
  cases text.toList with
  | nil => simp
  | cons c rest =>
    obtain ⟨b, more, hb⟩ := List.exists_cons_of_ne_nil (String.utf8EncodeChar_ne_nil (c := c))
    simp only [List.flatMap_cons, hb, List.cons_append, List.head?_cons, decide_eq_true_eq,
      Option.some.injEq]
    constructor
    · -- no other character has the byte of a slash in its encoding
      rintro rfl
      exact eq_slash_of_mem (by rw [hb]; exact List.mem_cons_self)
    · rintro rfl
      rw [utf8EncodeChar_slash] at hb
      exact (List.cons.inj hb).1.symm

/-- **A target behind a directory is the target seen from it**: naming a file in one step or
from a directory that is named first comes to the same path, whatever dots and slashes there
are in either part. -/
theorem resolve_resolve {cwd : Path} (absolute : cwd.isAbsolute = true) {directory target : String}
    (nonempty : directory ≠ "") (relative : target.toList.head? ≠ some '/') :
    cwd.resolve (directory ++ "/" ++ target) = (cwd.resolve directory).resolve target := by
  have spelled : ofText (directory ++ "/" ++ target) =
      ⟨(ofText directory).bytes ++ slash :: (ofText target).bytes⟩ := by
    have between : Utf8.encode "/" = [slash] := by decide
    unfold ofText
    rw [Utf8.encode_append, Utf8.encode_append, between, List.append_assoc, List.singleton_append]
  have some_bytes : (ofText directory).bytes ≠ [] := by
    have some_char : directory.toList ≠ [] := by simpa using nonempty
    obtain ⟨c, rest, hc⟩ := List.exists_cons_of_ne_nil some_char
    unfold ofText Utf8.encode
    rw [hc, List.flatMap_cons]
    exact List.append_ne_nil_of_left_ne_nil String.utf8EncodeChar_ne_nil _
  have open_end : (ofText target).isAbsolute = false := by
    rw [← Bool.not_eq_true, isAbsolute_ofText]
    exact relative
  have there : (cwd.join (ofText directory)).isAbsolute = true := isAbsolute_join absolute _
  unfold resolve
  rw [normal_join_normal there open_end, normal_eq_rooted (isAbsolute_join absolute _),
    normal_eq_rooted (isAbsolute_join there _), spelled, trail_join_slash absolute some_bytes,
    trail_join there open_end]

/-- Climbing past the root on the way, and a second step that starts with dots. -/
theorem resolve_resolve_climb :
    (ofText "/p").resolve ("q/..//../../." ++ "/" ++ "./../x//y/") = ofText "/x/y" ∧
      ((ofText "/p").resolve "q/..//../../.").resolve "./../x//y/" = ofText "/x/y" := by
  have same := @resolve_resolve (ofText "/p") (by decide) "q/..//../../." "./../x//y/"
    (by decide) (by decide)
  have file : (ofText "/p").resolve ("q/..//../../." ++ "/" ++ "./../x//y/") = ofText "/x/y" := by
    decide
  exact ⟨file, same ▸ file⟩

end FormatDaemon.Path

import FormatDaemon.Path
import FormatDaemon.Proofs.Utf8

/-!
# Paths that are text

Names end where slashes stand, and a slash is never part of a longer character. So
whatever is cut out of a path that is text, or put together from such cuts, is text.

* `Path.IsText`: the paths that are text.
* `isText_join`, `isText_resolve`, `isText_parent?`: **the paths a request makes out
  of its directory are text if that is**.
-/

namespace FormatDaemon.Path

open Utf8 (IsText)

/-- A path that is text. -/
protected def IsText (p : Path) : Prop := Utf8.IsText p.bytes

theorem isText_ofText (text : String) : (ofText text).IsText := .encode text

theorem text?_ofText (text : String) : (ofText text).text? = some text := Utf8.decode?_encode text

/-- A path that is text is the path its text spells. -/
theorem IsText.eq_ofText {p : Path} (h : p.IsText) : ∃ text, p = ofText text := by
  obtain ⟨text, ht⟩ := h
  exact ⟨text, by rw [ofText, ht]⟩

/-! ### Names -/

theorem utf8EncodeChar_slash : String.utf8EncodeChar '/' = [slash] := by decide

/-- A slash in the encoding of a character is that character. -/
theorem eq_slash_of_mem {c : Char} (h : slash ∈ String.utf8EncodeChar c) : c = '/' := by
  have hn := Utf8.toNat_of_mem (by decide) h
  rw [← Char.ofNat_toNat c, hn]
  decide

theorem cutAt_ne_nil (separator : UInt8) (bytes : List UInt8) : cutAt separator bytes ≠ [] := by
  induction bytes with
  | nil => simp [cutAt]
  | cons b rest ih =>
    obtain ⟨name, more, h⟩ := List.exists_cons_of_ne_nil ih
    simp only [cutAt, h]
    split <;> simp

/-- Bytes other than the separator belong to the first name. -/
theorem cutAt_append {separator : UInt8} {run rest : List UInt8} (hr : separator ∉ run)
    {name : Name} {more : List Name} (h : cutAt separator rest = name :: more) :
    cutAt separator (run ++ rest) = (run ++ name) :: more := by
  induction run with
  | nil => exact h
  | cons b run ih =>
    have hb : b ≠ separator := fun e => hr (by rw [e]; exact List.mem_cons_self)
    simp only [List.cons_append, cutAt, ih fun hm => hr (List.mem_cons_of_mem b hm), if_neg hb]

/-- The names between slashes of a text are texts. -/
theorem isText_of_mem_cutAt (cs : List Char) :
    ∀ n ∈ cutAt slash (cs.flatMap String.utf8EncodeChar), IsText n := by
  induction cs with
  | nil =>
    intro n hn
    rw [List.mem_singleton.1 hn]
    exact Utf8.isText_nil
  | cons c rest ih =>
    obtain ⟨name, more, h⟩ :=
      List.exists_cons_of_ne_nil (cutAt_ne_nil slash (rest.flatMap String.utf8EncodeChar))
    rw [h] at ih
    rw [List.flatMap_cons]
    intro n hn
    by_cases hs : slash ∈ String.utf8EncodeChar c
    -- a slash ends the name before it, which is empty here
    · rw [eq_slash_of_mem hs, utf8EncodeChar_slash, List.singleton_append, cutAt, h] at hn
      rcases List.mem_cons.1 hn with rfl | hn
      · exact Utf8.isText_nil
      · exact ih n hn
    -- any other character goes to the first name, with all its bytes
    · rw [cutAt_append hs h] at hn
      rcases List.mem_cons.1 hn with rfl | hn
      · exact (Utf8.isText_iff.2 ⟨[c], by simp⟩).append (ih name List.mem_cons_self)
      · exact ih n (List.mem_cons_of_mem name hn)

/-- A slash in front of a text makes a text. -/
theorem isText_cons {bytes : List UInt8} (h : IsText bytes) : IsText (slash :: bytes) :=
  IsText.append (a := [slash]) ⟨"/", by decide⟩ h

/-- A text without the slash in front is a text. -/
theorem isText_tail {rest : List UInt8} (h : IsText (slash :: rest)) : IsText rest := by
  obtain ⟨cs, hc⟩ := Utf8.isText_iff.1 h
  cases cs with
  | nil => simp at hc
  | cons c cs =>
    obtain ⟨b, more, hb⟩ := List.exists_cons_of_ne_nil (String.utf8EncodeChar_ne_nil (c := c))
    have hs : slash = b := by
      rw [List.flatMap_cons, hb] at hc
      exact (List.cons.inj hc).1
    have he := eq_slash_of_mem (c := c) (by rw [hb, hs]; exact List.mem_cons_self)
    rw [List.flatMap_cons, he, utf8EncodeChar_slash] at hc
    exact Utf8.isText_iff.2 ⟨cs, (List.cons.inj hc).2⟩

theorem isText_body {p : Path} (h : p.IsText) : IsText p.body := by
  unfold body
  split
  case isTrue ha =>
    obtain ⟨bytes⟩ := p
    cases bytes with
    | nil => exact h
    | cons b rest =>
      obtain rfl : b = slash := by simpa [isAbsolute] using ha
      exact isText_tail h
  case isFalse => exact h

theorem isText_of_mem_names {p : Path} (h : p.IsText) : ∀ n ∈ p.names, IsText n := by
  obtain ⟨cs, hc⟩ := Utf8.isText_iff.1 (isText_body h)
  rw [names, hc]
  exact isText_of_mem_cutAt cs

theorem isText_glue {names : List Name} (h : ∀ n ∈ names, IsText n) : IsText (glue names) := by
  induction names with
  | nil => exact Utf8.isText_nil
  | cons name rest ih =>
    have hn := h name List.mem_cons_self
    cases rest with
    | nil => exact hn
    | cons next rest =>
      exact hn.append (isText_cons (ih fun n hm => h n (List.mem_cons_of_mem name hm)))

theorem isText_rooted (absolute : Bool) {bytes : List UInt8} (h : IsText bytes) :
    IsText (if absolute then slash :: bytes else bytes) := by
  split
  · exact isText_cons h
  · exact h

theorem isText_ofNames {absolute : Bool} {names : List Name} (h : ∀ n ∈ names, IsText n) :
    (ofNames absolute names).IsText := by
  have hg := isText_rooted absolute (isText_glue h)
  unfold ofNames Path.IsText
  exact hg

/-! ### Paths from paths -/

/-- A name among the parts of a path is what one of its names stands for. -/
theorem mem_filterMap_of_mem_parts {p : Path} {n : Name} (h : .name n ∈ p.parts) :
    .name n ∈ p.names.filterMap part? := by
  unfold parts at h
  simp only at h
  split at h
  · simpa using h
  · split at h
    · simpa using h
    · exact h

/-- A name among the parts of a path is one of its names. -/
theorem mem_names_of_mem_parts {p : Path} {n : Name} (h : .name n ∈ p.parts) : n ∈ p.names := by
  obtain ⟨m, hm, he⟩ := List.mem_filterMap.1 (mem_filterMap_of_mem_parts h)
  have : m = n := by
    unfold part? at he
    split at he
    · cases he
    · split at he
      · cases he
      · exact Part.name.inj (Option.some.inj he)
  rwa [this] at hm

/-- What is on the way to a path was there before or is a part of it. -/
theorem mem_of_mem_walk {ps : List Part} {stack : List Name} {n : Name}
    (h : n ∈ ps.foldl walk stack) : n ∈ stack ∨ .name n ∈ ps := by
  induction ps generalizing stack with
  | nil => exact .inl h
  | cons p rest ih =>
    rcases ih h with hs | hr
    · cases p with
      | root | here => exact .inl hs
      | up => exact .inl (List.dropLast_subset _ hs)
      | name m =>
        rcases List.mem_append.1 hs with hs | hs
        · exact .inl hs
        · rw [List.mem_singleton.1 hs]
          exact .inr List.mem_cons_self
    · exact .inr (List.mem_cons_of_mem p hr)

theorem isText_normal {p : Path} (h : p.IsText) : p.normal.IsText := by
  refine isText_ofNames fun n hn => ?_
  rcases mem_of_mem_walk hn with hn | hn
  · cases hn
  · exact isText_of_mem_names h n (mem_names_of_mem_parts hn)

theorem isText_join {base p : Path} (hb : base.IsText) (hp : p.IsText) : (base.join p).IsText := by
  unfold join
  split
  · exact hp
  split
  · exact IsText.append hb hp
  · exact IsText.append hb (isText_cons hp)

theorem isText_resolve {base : Path} (h : base.IsText) (target : String) :
    (base.resolve target).IsText :=
  isText_normal (isText_join h (isText_ofText target))

theorem mem_of_mem_dropIdle {absolute : Bool} {names : List Name} {n : Name}
    (h : n ∈ dropIdle absolute names) : n ∈ names := by
  cases names with
  | nil => exact h
  | cons first rest =>
    simp only [dropIdle] at h
    split at h
    · split at h
      · cases h
      · exact List.mem_cons.2 (.inl (List.mem_singleton.1 h))
    · rcases List.mem_cons.1 h with rfl | h
      · exact List.mem_cons_self
      · have hd := (List.dropWhile_sublist (isIdle absolute false)).mem (List.mem_reverse.1 h)
        exact List.mem_cons_of_mem first (List.mem_reverse.1 hd)

theorem isText_parent? {p q : Path} (h : p.IsText) (hq : p.parent? = some q) : q.IsText := by
  unfold parent? at hq
  split at hq
  · cases hq
  · have hk : ∀ n ∈ dropIdle p.isAbsolute (dropIdle p.isAbsolute p.names).dropLast, IsText n :=
      fun n hn => isText_of_mem_names h n
        (mem_of_mem_dropIdle (List.dropLast_subset _ (mem_of_mem_dropIdle hn)))
    rw [← Option.some.inj hq]
    exact isText_rooted _ (isText_glue hk)

end FormatDaemon.Path

import FormatDaemon.Arguments
import Mathlib.Tactic.MkIffOfInductiveProp
import Mathlib.Tactic.SplitIfs

/-!
# The words of an argument vector

An argument vector is a row of words: the flag of the ignore file takes the token behind
it along, every other token is a word of its own. A vector is read word by word, and what
is read is one list for each kind of word.

* `Arguments.Word`, `Arguments.cut`, `Arguments.spell`: words, and how they are spelled.
* `cut_spell`: whole words are cut out again wherever they are spelled.
* `read_eq_foldlM`: a vector is read word by word.
* `ofTokens?_eq_ok_iff`: **what is read of a vector, kind by kind** (`Draft.Takes`).
-/

namespace FormatDaemon.Arguments

/-- A word of an argument vector. -/
inductive Word where
  | ignorePath (value : String)
  | noColor
  | select (task : Task)
  | option (token : String)
  | file (name : String)
  /-- The flag of the ignore file with nothing behind it. -/
  | dangling
  deriving DecidableEq, Repr

namespace Word

/-- The tokens of a word. -/
def tokens : Word → List String
  | .ignorePath value => [ignorePathFlag, value]
  | .noColor => [noColorFlag]
  | .select .check => [checkFlag]
  | .select .format => [formatFlag]
  | .option token => [token]
  | .file name => [name]
  | .dangling => [ignorePathFlag]

/-- The word of a token that takes no other along. -/
def ofToken (token : String) : Word :=
  if token = noColorFlag then .noColor
  else if token = checkFlag then .select .check
  else if token = formatFlag then .select .format
  else if isDashed token then .option token
  else .file token

/-- The value of the ignore file. -/
def ignorePath? : Word → Option String
  | .ignorePath value => some value
  | _ => none

/-- The task a word selects. -/
def task? : Word → Option Task
  | .select task => some task
  | _ => none

/-- The token of an option. -/
def option? : Word → Option String
  | .option token => some token
  | _ => none

/-- The file a word names. -/
def file? : Word → Option String
  | .file name => some name
  | _ => none

end Word

/-- The words of an argument vector. -/
def cut : List String → List Word
  | [] => []
  | token :: rest =>
    if token = ignorePathFlag then
      match rest with
      | [] => [.dangling]
      | value :: rest => .ignorePath value :: cut rest
    else .ofToken token :: cut rest

/-- The argument vector of some words. -/
def spell (words : List Word) : List String := words.flatMap Word.tokens

/-! ### Cutting and spelling -/

theorem Word.tokens_ofToken (token : String) : (Word.ofToken token).tokens = [token] := by
  unfold Word.ofToken
  split_ifs with hn hc hf hd
  · rw [hn, Word.tokens]
  · rw [hc, Word.tokens]
  · rw [hf, Word.tokens]
  · rfl
  · rfl

/-- A token without a dash names a file. -/
theorem Word.ofToken_of_not_isDashed {name : String} (h : isDashed name = false) :
    Word.ofToken name = .file name := by
  have other : ∀ flag, isDashed flag = true → name ≠ flag := by
    rintro _ hf rfl
    rw [h] at hf
    cases hf
  unfold Word.ofToken
  rw [if_neg (other noColorFlag (by decide)), if_neg (other checkFlag (by decide)),
    if_neg (other formatFlag (by decide)), h]
  rfl

theorem cut_cons {token : String} (h : token ≠ ignorePathFlag) (rest : List String) :
    cut (token :: rest) = .ofToken token :: cut rest := by
  rw [cut.eq_def]
  exact if_neg h

theorem cut_value (value : String) (rest : List String) :
    cut (ignorePathFlag :: value :: rest) = .ignorePath value :: cut rest := by
  rw [cut, if_pos rfl]

/-- A word that is cut out again wherever it is spelled. -/
def Word.Whole (w : Word) : Prop := ∀ rest, cut (w.tokens ++ rest) = w :: cut rest

theorem Word.whole_ofToken {token : String} (h : token ≠ ignorePathFlag) :
    (Word.ofToken token).Whole := by
  intro rest
  rw [Word.tokens_ofToken, List.singleton_append, cut_cons h]

theorem Word.whole_noColor : Word.noColor.Whole := by
  have flag : noColorFlag ≠ ignorePathFlag := by decide
  exact Word.whole_ofToken flag

/-- The words of a vector are whole, but for a flag without its value. -/
theorem Word.whole_of_mem_cut {tokens : List String} {w : Word} (h : w ∈ cut tokens)
    (hd : w ≠ .dangling) : w.Whole := by
  induction tokens using cut.induct with
  | case1 => cases h
  | case2 => exact absurd (List.mem_singleton.1 h) hd
  | case3 value rest ih =>
    rw [cut_value] at h
    rcases List.mem_cons.1 h with rfl | h
    · exact cut_value value
    · exact ih h
  | case4 token rest ht ih =>
    rw [cut_cons ht] at h
    rcases List.mem_cons.1 h with rfl | h
    · exact Word.whole_ofToken ht
    · exact ih h

/-- Whole words are cut out as they were spelled. -/
theorem cut_spell {words : List Word} (h : ∀ w ∈ words, w.Whole) : cut (spell words) = words := by
  induction words with
  | nil => rfl
  | cons w rest ih =>
    rw [spell, List.flatMap_cons, h w List.mem_cons_self]
    exact congrArg (w :: ·) (ih fun v hv => h v (List.mem_cons_of_mem w hv))

/-! ### Reading -/

/-- Reads one word into a draft. -/
def Draft.take (d : Draft) : Word → Except UsageError Draft
  | .ignorePath value => .ok { d with ignorePath := value }
  | .noColor => .ok { d with noColor := true }
  | .select task => .ok { d with task := task }
  | .option token => .ok { d with options := d.options ++ [token] }
  | .file name =>
    match d.target? with
    | some first => .error (.twoFiles first name)
    | none => .ok { d with target? := some name }
  | .dangling => .error (.noValue ignorePathFlag)

theorem read_cons {d : Draft} {token : String} {rest : List String} (h : token ≠ ignorePathFlag) :
    read d (token :: rest) = (d.take (.ofToken token)).bind (read · rest) := by
  unfold Word.ofToken
  rw [read.eq_def]
  simp only [if_neg h]
  split_ifs with hn hc hf hd
  · rfl
  · rfl
  · rfl
  · rfl
  · cases ht : d.target? with
    | none => simp only [Draft.take, ht, Except.bind]
    | some first => simp only [Draft.take, ht, Except.bind]

/-- **A vector is read word by word.** -/
theorem read_eq_foldlM (d : Draft) (tokens : List String) :
    read d tokens = (cut tokens).foldlM Draft.take d := by
  induction tokens using cut.induct generalizing d with
  | case1 => rfl
  | case2 => rfl
  | case3 value rest ih =>
    rw [cut_value, read, if_pos rfl]
    exact ih _
  | case4 token rest h ih =>
    rw [cut_cons h, read_cons h, List.foldlM_cons]
    exact congrArg _ (funext ih)

/-- What some words make of a draft: at most one file in all, and the last word of each
other kind. -/
@[mk_iff] structure Draft.Takes (d : Draft) (words : List Word) (d' : Draft) : Prop where
  whole : .dangling ∉ words
  target : d.target?.toList ++ words.filterMap Word.file? = d'.target?.toList
  task : d'.task = (words.filterMap Word.task?).getLastD d.task
  noColor : d'.noColor = (d.noColor || decide (Word.noColor ∈ words))
  ignorePath : d'.ignorePath = (words.filterMap Word.ignorePath?).getLastD d.ignorePath
  options : d'.options = d.options ++ words.filterMap Word.option?

theorem Draft.takes_nil {d d' : Draft} : d.Takes [] d' ↔ d = d' := by
  constructor
  · rintro ⟨-, target, task, noColor, ignorePath, options⟩
    obtain ⟨target?, _, _, _, _⟩ := d
    obtain ⟨target'?, _, _, _, _⟩ := d'
    cases target? <;> cases target'? <;> simp_all
  · rintro rfl
    constructor <;> simp

theorem Draft.takes_cons {d d' : Draft} {w : Word} {rest : List Word} :
    d.Takes (w :: rest) d' ↔ ∃ m, d.take w = .ok m ∧ m.Takes rest d' := by
  -- a word shows up in the list of its kind and in no other
  simp only [takes_iff, List.mem_cons, List.filterMap_cons]
  cases w with
  | ignorePath value =>
    simp only [take, Except.ok.injEq, exists_eq_left', reduceCtorEq, false_or, List.getLastD_cons,
      Word.file?, Word.task?, Word.ignorePath?, Word.option?]
  | noColor =>
    simp only [take, Except.ok.injEq, exists_eq_left', reduceCtorEq, false_or, true_or,
      decide_true, Bool.or_true, Bool.true_or, Word.file?, Word.task?, Word.ignorePath?,
      Word.option?]
  | select task =>
    simp only [take, Except.ok.injEq, exists_eq_left', reduceCtorEq, false_or, List.getLastD_cons,
      Word.file?, Word.task?, Word.ignorePath?, Word.option?]
  | option token =>
    simp only [take, Except.ok.injEq, exists_eq_left', reduceCtorEq, false_or, List.append_assoc,
      List.singleton_append, Word.file?, Word.task?, Word.ignorePath?, Word.option?]
  | file name =>
    cases ht : d.target? with
    | none =>
      simp only [take, ht, Except.ok.injEq, exists_eq_left', reduceCtorEq, false_or,
        Option.toList_none, Option.toList_some, List.nil_append, List.singleton_append,
        Word.file?, Word.task?, Word.ignorePath?, Word.option?]
    | some first =>
      -- a second file is one too many for a draft
      simp only [take, ht, reduceCtorEq, false_and, exists_false, iff_false, Word.file?]
      rintro ⟨-, target, -⟩
      have short : d'.target?.toList.length ≤ 1 := Option.length_toList_le
      rw [← target, List.length_append, List.length_cons, Option.toList_some,
        List.length_singleton] at short
      omega
  | dangling =>
    simp only [take, reduceCtorEq, true_or, not_true, false_and, exists_false]

/-- **What is read of some words, kind by kind.** -/
theorem foldlM_take {words : List Word} {d d' : Draft} :
    words.foldlM Draft.take d = .ok d' ↔ d.Takes words d' := by
  induction words generalizing d with
  | nil =>
    rw [Draft.takes_nil]
    exact ⟨Except.ok.inj, congrArg _⟩
  | cons w rest ih =>
    rw [List.foldlM_cons, Draft.takes_cons]
    cases hw : d.take w with
    | error error => simp [bind, Except.bind]
    | ok m =>
      simp only [Except.ok.injEq, exists_eq_left']
      exact ih

/-- The draft behind an argument vector that was read. -/
def draft (args : Arguments) : Draft :=
  ⟨some args.target, args.task, args.noColor, args.ignorePath, args.options⟩

theorem ofTokens?_eq_ok_iff {tokens : List String} {args : Arguments} :
    ofTokens? tokens = .ok args ↔ ({} : Draft).Takes (cut tokens) args.draft := by
  rw [← foldlM_take, ← read_eq_foldlM, ofTokens?]
  obtain ⟨target, task, noColor, ignorePath, options⟩ := args
  cases hr : read {} tokens with
  | error error => simp [bind, Except.bind]
  | ok d =>
    obtain ⟨target?, _, _, _, _⟩ := d
    cases target? with
    | none => simp [bind, Except.bind, draft]
    | some first => simp [bind, Except.bind, draft]

end FormatDaemon.Arguments

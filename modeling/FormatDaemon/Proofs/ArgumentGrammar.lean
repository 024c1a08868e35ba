import FormatDaemon.Proofs.ArgumentWords

/-!
# The grammar of argument vectors

The flag of the ignore file takes the token behind it along, whatever that looks like; every
other token stands for itself. Which vectors are read, as what, and what is wrong with all
others can be told from the tokens that stand for themselves and those taken along.

* `Arguments.divide`: the two kinds of tokens; `count_divide`: no token is lost or counted
  twice.
* `Arguments.fault?`: what is wrong with a vector. A second file counts before a missing
  value, and that before a missing file.
* `read_eq_error_iff`: what reading fails with, from any draft on.
* `ofTokens?_grammar`: **a vector is read as its division says, and refused as it says**.
-/

namespace FormatDaemon.Arguments

/-! ### Division -/

/-- An argument vector, divided. -/
structure Division where
  /-- The tokens that stand for themselves. -/
  free : List String
  /-- The tokens that a flag took along. -/
  values : List String
  /-- Whether the last token is a flag with nothing to take along. -/
  dangling : Bool
  deriving DecidableEq, Repr

/-- Divides an argument vector, from left to right. -/
def divide : List String → Division
  | [] => ⟨[], [], false⟩
  | token :: rest =>
    if token = ignorePathFlag then
      match rest with
      | [] => ⟨[], [], true⟩
      | value :: rest => { divide rest with values := value :: (divide rest).values }
    else { divide rest with free := token :: (divide rest).free }

/-- The task a token selects. -/
def selected? (token : String) : Option Task :=
  if token = checkFlag then some .check
  else if token = formatFlag then some .format
  else none

/-- Whether a token is left to the options: one with a dash that is no flag of the request. -/
def isOption (token : String) : Bool :=
  isDashed token && token ≠ noColorFlag && token ≠ checkFlag && token ≠ formatFlag

/-- What is wrong with a vector that names some files and may end in a dangling flag. -/
def fault? : List String → Bool → Option UsageError
  | first :: second :: _, _ => some (.twoFiles first second)
  | _, true => some (.noValue ignorePathFlag)
  | [], false => some .noFile
  | [_], false => none

theorem divide_value (value : String) (rest : List String) :
    divide (ignorePathFlag :: value :: rest) =
      { divide rest with values := value :: (divide rest).values } := by
  rw [divide, if_pos rfl]

theorem divide_cons {token : String} (h : token ≠ ignorePathFlag) (rest : List String) :
    divide (token :: rest) = { divide rest with free := token :: (divide rest).free } := by
  rw [divide.eq_def]
  exact if_neg h

/-- **No token is lost, and none is counted twice.** -/
theorem count_divide (tokens : List String) (token : String) :
    tokens.count token = (divide tokens).free.count token + (divide tokens).values.count token +
      if token = ignorePathFlag then
        (divide tokens).values.length + (divide tokens).dangling.toNat else 0 := by
  induction tokens using divide.induct with
  | case1 => simp [divide]
  | case2 =>
    have alone : divide [ignorePathFlag] = ⟨[], [], true⟩ := rfl
    rw [alone, List.count_singleton, List.count_nil]
    simp only [beq_iff_eq, eq_comm (a := ignorePathFlag), List.length_nil, Bool.toNat_true,
      Nat.zero_add]
  | case3 value rest ih =>
    rw [divide_value]
    simp only [List.count_cons, List.length_cons, ih, beq_iff_eq, eq_comm (a := ignorePathFlag)]
    split_ifs <;> omega
  | case4 first rest h ih =>
    rw [divide_cons h]
    simp only [List.count_cons, ih]
    omega

/-- What stands for itself keeps its order, and so does what is taken along. -/
theorem sublist_divide (tokens : List String) :
    (divide tokens).free.Sublist tokens ∧ (divide tokens).values.Sublist tokens := by
  induction tokens using divide.induct with
  | case1 => exact ⟨.slnil, .slnil⟩
  | case2 => exact ⟨List.nil_sublist _, List.nil_sublist _⟩
  | case3 value rest ih =>
    obtain ⟨free, values⟩ := ih
    rw [divide_value]
    exact ⟨(free.cons value).cons ignorePathFlag, (values.cons_cons value).cons ignorePathFlag⟩
  | case4 first rest h ih =>
    obtain ⟨free, values⟩ := ih
    rw [divide_cons h]
    exact ⟨free.cons_cons first, values.cons first⟩

/-! ### Division and words -/

namespace Word

/-- Whether a word is a token that stands for itself. -/
def isFree : Word → Bool
  | .ignorePath _ | .dangling => false
  | .noColor | .select _ | .option _ | .file _ => true

theorem isFree_ofToken (token : String) : (ofToken token).isFree = true := by
  unfold ofToken
  split_ifs <;> rfl

theorem file?_ofToken (token : String) :
    (ofToken token).file? = Option.guard (fun t => !isDashed t) token := by
  cases hd : isDashed token with
  | false =>
    rw [ofToken_of_not_isDashed hd, Option.guard, hd]
    rfl
  | true =>
    have none : Option.guard (fun t => !isDashed t) token = none := by
      rw [Option.guard, hd]
      rfl
    rw [none, ofToken]
    split_ifs
    all_goals rfl

theorem task?_ofToken (token : String) : (ofToken token).task? = selected? token := by
  have noTask : selected? noColorFlag = none := by decide
  unfold ofToken
  split_ifs with hn hc hf hd
  · rw [hn, noTask]; rfl
  · rw [hc]; rfl
  · rw [hf]; rfl
  · unfold selected?; rw [if_neg hc, if_neg hf]; rfl
  · unfold selected?; rw [if_neg hc, if_neg hf]; rfl

theorem option?_ofToken (token : String) :
    (ofToken token).option? = Option.guard isOption token := by
  unfold ofToken Option.guard isOption
  split_ifs <;> simp_all [option?]

theorem ofToken_eq_noColor {token : String} : ofToken token = .noColor ↔ token = noColorFlag := by
  unfold ofToken
  split_ifs with hn <;> simp [hn]

end Word

/-- The words of a vector that stand for themselves are those of its free tokens. -/
theorem filter_isFree_cut (tokens : List String) :
    (cut tokens).filter Word.isFree = (divide tokens).free.map Word.ofToken := by
  induction tokens using divide.induct with
  | case1 => rfl
  | case2 => rfl
  | case3 value rest ih =>
    rw [cut_value, divide_value]
    exact ih
  | case4 token rest h ih =>
    rw [cut_cons h, divide_cons h, List.filter_cons_of_pos (Word.isFree_ofToken token), ih]
    rfl

/-- What is read off words that stand for themselves is read off their tokens. -/
theorem filterMap_cut {α : Type} {f : Word → Option α} (hf : ∀ w, w.isFree = false → f w = none)
    (tokens : List String) :
    (cut tokens).filterMap f = (divide tokens).free.filterMap fun token => f (.ofToken token) := by
  have only : (fun w => if w.isFree then f w else none) = f := by
    funext w
    cases hw : w.isFree with
    | false => exact (hf w hw).symm
    | true => rfl
  calc (cut tokens).filterMap f
      = ((cut tokens).filter Word.isFree).filterMap f := by rw [List.filterMap_filter, only]
    _ = (divide tokens).free.filterMap fun token => f (.ofToken token) := by
      rw [filter_isFree_cut, List.filterMap_map]
      rfl

theorem filterMap_file?_cut (tokens : List String) :
    (cut tokens).filterMap Word.file? = (divide tokens).free.filter (!isDashed ·) := by
  rw [filterMap_cut (by rintro (_ | _) <;> simp [Word.isFree, Word.file?])]
  simp only [Word.file?_ofToken]
  exact congrFun List.filterMap_eq_filter _

theorem filterMap_task?_cut (tokens : List String) :
    (cut tokens).filterMap Word.task? = (divide tokens).free.filterMap selected? := by
  rw [filterMap_cut (by rintro (_ | _) <;> simp [Word.isFree, Word.task?])]
  simp only [Word.task?_ofToken]

theorem filterMap_option?_cut (tokens : List String) :
    (cut tokens).filterMap Word.option? = (divide tokens).free.filter isOption := by
  rw [filterMap_cut (by rintro (_ | _) <;> simp [Word.isFree, Word.option?])]
  simp only [Word.option?_ofToken]
  exact congrFun List.filterMap_eq_filter _

theorem noColor_mem_cut (tokens : List String) :
    .noColor ∈ cut tokens ↔ noColorFlag ∈ (divide tokens).free := by
  have free : .noColor ∈ cut tokens ↔ .noColor ∈ (cut tokens).filter Word.isFree := by
    rw [List.mem_filter]
    exact (and_iff_left rfl).symm
  rw [free, filter_isFree_cut, List.mem_map]
  simp only [Word.ofToken_eq_noColor, exists_eq_right]

theorem filterMap_ignorePath?_cut (tokens : List String) :
    (cut tokens).filterMap Word.ignorePath? = (divide tokens).values := by
  induction tokens using divide.induct with
  | case1 => rfl
  | case2 => rfl
  | case3 value rest ih =>
    rw [cut_value, divide_value, List.filterMap_cons, ih]
    rfl
  | case4 token rest h ih =>
    have free := Word.isFree_ofToken token
    rw [cut_cons h, divide_cons h, List.filterMap_cons, ih]
    cases hw : Word.ofToken token with
    | ignorePath value => rw [hw] at free; cases free
    | dangling | noColor | select | option | file => rfl

theorem dangling_mem_cut (tokens : List String) :
    .dangling ∈ cut tokens ↔ (divide tokens).dangling = true := by
  induction tokens using divide.induct with
  | case1 => decide
  | case2 => decide
  | case3 value rest ih =>
    rw [cut_value, divide_value, List.mem_cons, ih]
    simp
  | case4 token rest h ih =>
    have free := Word.isFree_ofToken token
    have other : Word.dangling ≠ Word.ofToken token := by
      intro he
      rw [← he] at free
      cases free
    rw [cut_cons h, divide_cons h, List.mem_cons, ih]
    simp [other]

/-! ### Reading -/

/-- A token with a dash names no file, and reading it never fails. -/
theorem Draft.take_of_isDashed (d : Draft) {token : String} (h : isDashed token = true) :
    ∃ m, d.take (.ofToken token) = .ok m ∧ m.target? = d.target? := by
  unfold Word.ofToken
  split_ifs
  · exact ⟨_, rfl, rfl⟩
  · exact ⟨_, rfl, rfl⟩
  · exact ⟨_, rfl, rfl⟩
  · exact ⟨_, rfl, rfl⟩

theorem error_eq_error_iff {fault error : UsageError} (h : fault ≠ .noFile) :
    (Except.error fault : Except UsageError Draft) = .error error ↔
      error ≠ .noFile ∧ some fault = some error := by
  constructor
  · rintro ⟨⟩
    exact ⟨h, rfl⟩
  · rintro ⟨-, ⟨⟩⟩
    rfl

/-- **What reading fails with**, from any draft on. The files of the draft come first, and a
second one is met before the vector ends. -/
theorem read_eq_error_iff {d : Draft} {tokens : List String} {error : UsageError} :
    read d tokens = .error error ↔ error ≠ .noFile ∧
      fault? (d.target?.toList ++ (divide tokens).free.filter (!isDashed ·))
        (divide tokens).dangling = some error := by
  induction tokens using divide.induct generalizing d with
  | case1 =>
    have nothing : divide [] = ⟨[], [], false⟩ := rfl
    rw [nothing]
    cases d.target? <;> simp [read, fault?, eq_comm]
  | case2 =>
    have short : fault? (d.target?.toList ++ []) true = some (.noValue ignorePathFlag) := by
      cases d.target? <;> rfl
    have alone : divide [ignorePathFlag] = ⟨[], [], true⟩ := rfl
    rw [alone, List.filter_nil, short]
    exact error_eq_error_iff (by simp)
  | case3 value rest ih =>
    rw [divide_value, read, if_pos rfl]
    exact ih
  | case4 token rest h ih =>
    rw [divide_cons h, read_cons h]
    cases hd : isDashed token with
    | true =>
      obtain ⟨m, hm, same⟩ := d.take_of_isDashed hd
      have dropped : (token :: (divide rest).free).filter (!isDashed ·) =
          (divide rest).free.filter (!isDashed ·) := List.filter_cons_of_neg (by simp [hd])
      rw [hm, dropped, ← same]
      exact ih
    | false =>
      have kept : (token :: (divide rest).free).filter (!isDashed ·) =
          token :: (divide rest).free.filter (!isDashed ·) :=
        List.filter_cons_of_pos (by simp [hd])
      rw [kept, Word.ofToken_of_not_isDashed hd]
      cases ht : d.target? with
      | none =>
        simp only [Draft.take, ht]
        exact ih
      | some first =>
        -- the second file decides, whatever follows
        simp only [Draft.take, ht]
        exact error_eq_error_iff (by simp)

/-- What a vector is read as, by its division. -/
theorem ofTokens?_eq_ok_iff_divide {tokens : List String} {args : Arguments} :
    ofTokens? tokens = .ok args ↔
      (divide tokens).dangling = false ∧
      (divide tokens).free.filter (!isDashed ·) = [args.target] ∧
      args.task = ((divide tokens).free.filterMap selected?).getLastD .format ∧
      args.noColor = decide (noColorFlag ∈ (divide tokens).free) ∧
      args.ignorePath = (divide tokens).values.getLastD defaultIgnorePath ∧
      args.options = (divide tokens).free.filter isOption := by
  have whole : .dangling ∉ cut tokens ↔ (divide tokens).dangling = false := by
    rw [dangling_mem_cut, Bool.not_eq_true]
  rw [ofTokens?_eq_ok_iff, Draft.takes_iff, whole, filterMap_file?_cut, filterMap_task?_cut,
    filterMap_ignorePath?_cut, filterMap_option?_cut]
  simp only [noColor_mem_cut, Bool.false_or, List.nil_append, draft, Option.toList_none,
    Option.toList_some]

/-- What a vector is refused for, by its division. -/
theorem ofTokens?_eq_error_iff {tokens : List String} {error : UsageError} :
    ofTokens? tokens = .error error ↔
      fault? ((divide tokens).free.filter (!isDashed ·)) (divide tokens).dangling =
        some error := by
  cases hr : read {} tokens with
  | error fault =>
    obtain ⟨-, found⟩ := read_eq_error_iff.1 hr
    have refused : ofTokens? tokens = .error fault := by rw [ofTokens?, hr]; rfl
    have found : fault? ((divide tokens).free.filter (!isDashed ·)) (divide tokens).dangling =
        some fault := found
    rw [refused, found, Except.error.injEq, Option.some.injEq]
  | ok d =>
    -- what was read whole can only lack a file
    have takes : ({} : Draft).Takes (cut tokens) d := by
      rw [← foldlM_take, ← read_eq_foldlM, hr]
    have whole : (divide tokens).dangling = false := by
      rw [← Bool.not_eq_true, ← dangling_mem_cut]
      exact takes.whole
    have files : (divide tokens).free.filter (!isDashed ·) = d.target?.toList := by
      rw [← filterMap_file?_cut]
      exact takes.target
    rw [whole, files, ofTokens?, hr]
    cases ht : d.target? with
    | none => simp [bind, Except.bind, ht, fault?]
    | some target => simp [bind, Except.bind, ht, fault?]

/-- A second file is met before the flag that dangles. -/
example : ofTokens? ["--ignore-path", "--ignore-path", "a", "--check", "", "--ignore-path"] =
    .error (.twoFiles "a" "") := rfl

theorem fault?_eq_some_iff {files : List String} {dangling : Bool} {error : UsageError} :
    fault? files dangling = some error ↔
      (∃ first second more, files = first :: second :: more ∧ error = .twoFiles first second) ∨
      (files.length ≤ 1 ∧ dangling = true ∧ error = .noValue ignorePathFlag) ∨
      (files = [] ∧ dangling = false ∧ error = .noFile) := by
  match files, dangling with
  | first :: second :: more, _ =>
    constructor
    · rintro ⟨⟩
      exact .inl ⟨first, second, more, rfl, rfl⟩
    · rintro (⟨_, _, _, ⟨⟩, rfl⟩ | ⟨short, -⟩ | ⟨none, -⟩)
      · rfl
      · simp at short
      · cases none
  | [], true | [_], true | [], false | [_], false => simp [fault?, eq_comm]

/-- **The grammar of argument vectors.** Every token stands for itself or is taken along, in
its order. A vector is read if no flag dangles and just one of the free tokens has no dash;
that is the target, the last selector is the task, the last value is the ignore file, and
what has a dash and is no flag is left to the options. Otherwise a second file is the error,
or else a missing value, or else a missing file. -/
theorem ofTokens?_grammar (tokens : List String) :
    let d := divide tokens
    let files := d.free.filter (!isDashed ·)
    ((∀ token, tokens.count token = d.free.count token + d.values.count token +
        if token = ignorePathFlag then d.values.length + d.dangling.toNat else 0) ∧
      d.free.Sublist tokens ∧ d.values.Sublist tokens) ∧
    (∀ args, ofTokens? tokens = .ok args ↔
      d.dangling = false ∧
      files = [args.target] ∧
      args.task = (d.free.filterMap selected?).getLastD .format ∧
      args.noColor = decide (noColorFlag ∈ d.free) ∧
      args.ignorePath = d.values.getLastD defaultIgnorePath ∧
      args.options = d.free.filter isOption) ∧
    ∀ error, ofTokens? tokens = .error error ↔
      (∃ first second more, files = first :: second :: more ∧ error = .twoFiles first second) ∨
      (files.length ≤ 1 ∧ d.dangling = true ∧ error = .noValue ignorePathFlag) ∨
      (files = [] ∧ d.dangling = false ∧ error = .noFile) := by
  intro d files
  refine ⟨⟨count_divide tokens, sublist_divide tokens⟩, ?_, ?_⟩
  · intro args
    exact ofTokens?_eq_ok_iff_divide
  · intro error
    rw [ofTokens?_eq_error_iff]
    exact fault?_eq_some_iff

end FormatDaemon.Arguments

import BuildPeer.CommandLine

/-!
Command lines by what is said on them. Each setting can be written in a few ways (`Writes`), and a
line is one after another of them (`Spells`). What is made of such a line is what the settings make
one after another, faults included (`parse_spelled`), and every line that is accepted is one
(`spelled_of_parse`). An accepted line says a thing only once, so what it says of an option is the
value that comes out (`value?_parse`).
-/

namespace BuildPeer.CommandLine

inductive Saying where
  | strict
  | value (opt : Opt) (text : String)
  deriving DecidableEq, Repr

def Opt.name : Opt → String
  | .config => "config"
  | .readTimeout => "read-timeout-ms"
  | .maxFrameSize => "max-frame-size"
  | .logLevel => "log-level"

def IsPlain (arg : String) : Prop :=
  arg = "-" ∨ arg.toList.head? ≠ some '-'

inductive Whole : Saying → String → Prop where
  | strict : Whole .strict "--strict"
  | long (opt : Opt) (text : String) : Whole (.value opt text) ("--" ++ opt.name ++ "=" ++ text)
  | short {text : String} (something : text ≠ "") (bare : text.toList.head? ≠ some '=') :
      Whole (.value .config text) ("-c" ++ text)
  | shortEquals (text : String) : Whole (.value .config text) ("-c=" ++ text)

inductive Opens : Opt → String → Prop where
  | long (opt : Opt) : Opens opt ("--" ++ opt.name)
  | short : Opens .config "-c"

/-- A line with these things in this order. Two dashes may close it. -/
inductive Spells : List Saying → List String → Prop where
  | nothing : Spells [] []
  | closed : Spells [] ["--"]
  | whole {said : Saying} {sayings : List Saying} {arg : String} {line : List String}
      (whole : Whole said arg) (spells : Spells sayings line) :
      Spells (said :: sayings) (arg :: line)
  | apart {opt : Opt} {text : String} {sayings : List Saying} {arg : String} {line : List String}
      (opens : Opens opt arg) (plain : IsPlain text) (spells : Spells sayings line) :
      Spells (.value opt text :: sayings) (arg :: text :: line)

def say (args : Arguments) : Saying → Except Refusal Arguments
  | .strict => raise args .strict
  | .value opt text => set args opt text

variable {args : Arguments} {state : State} {opt : Opt} {text arg : String} {line : List String}

theorem bind_eq_ok {ε α β : Type} {given : Except ε α} {next : α → Except ε β} {b : β}
    (accepted : given.bind next = .ok b) : ∃ a, given = .ok a ∧ next a = .ok b := by
  cases given with
  | error fault => cases accepted
  | ok a => exact ⟨a, rfl, accepted⟩

theorem map_eq_ok {ε α β : Type} {given : Except ε α} {next : α → β} {b : β}
    (accepted : given.map next = .ok b) : ∃ a, given = .ok a ∧ next a = b := by
  cases given with
  | error fault => cases accepted
  | ok a => exact ⟨a, rfl, Except.ok.inj accepted⟩

-- One argument.

theorem parseFrom_cons (goesOn : arg ≠ "--") (state : State) :
    parseFrom state (arg :: line) =
      (argument state arg).bind fun state => parseFrom state line := by
  rw [parseFrom, if_neg goesOn]
  cases argument state arg <;> rfl

theorem Opt.named?_name (opt : Opt) : Opt.named? opt.name = some opt := by
  cases opt <;> rfl

theorem Opt.name_of_named? {name : String} (named : Opt.named? name = some opt) :
    name = opt.name := by
  unfold Opt.named? at named
  split at named <;> cases named <;> rfl

theorem Opt.bare_name (opt : Opt) : '=' ∉ opt.name.toList := by
  cases opt <;> decide

theorem append_ofList_nil (text : String) : text ++ String.ofList [] = text := by
  apply String.toList_inj.mp
  simp

theorem append_ofList_sign (text : String) (rest : List Char) :
    text ++ String.ofList ('=' :: rest) = text ++ "=" ++ String.ofList rest := by
  apply String.toList_inj.mp
  simp

theorem argument_dashes {name : String} (bare : '=' ∉ name.toList) (state : State)
    (rest : List Char) (cut : ∀ c ∈ rest.head?, c = '=') :
    argument state ("--" ++ name ++ String.ofList rest) =
      long state name (rest.tail?.map String.ofList) := by
  have inName : ∀ c ∈ name.toList, decide (c ≠ '=') = true := by
    intro c member
    rw [decide_eq_true_eq]
    rintro rfl
    exact bare member
  have whole : ("--" ++ name ++ String.ofList rest).toList =
      '-' :: '-' :: (name.toList ++ rest) := by
    simp
  have taken : (name.toList ++ rest).takeWhile (· ≠ '=') = name.toList := by
    rw [List.takeWhile_append_of_pos inName]
    cases rest with
    | nil => exact List.append_nil _
    | cons c rest => simp [cut c rfl]
  have left : (name.toList ++ rest).dropWhile (· ≠ '=') = rest := by
    rw [List.dropWhile_append_of_pos inName]
    cases rest with
    | nil => rfl
    | cons c rest => simp [cut c rfl]
  simp only [argument, whole, taken, left]
  rw [String.ofList_toList]
  cases rest <;> rfl

theorem argument_long {name : String} (bare : '=' ∉ name.toList) (state : State) :
    argument state ("--" ++ name) = long state name none := by
  have cut := argument_dashes bare state [] fun _ none_ => nomatch none_
  rwa [append_ofList_nil] at cut

theorem argument_joined {name : String} (bare : '=' ∉ name.toList) (state : State)
    (text : String) :
    argument state ("--" ++ name ++ "=" ++ text) = long state name (some text) := by
  have cut := argument_dashes bare state ('=' :: text.toList) (by simp)
  rw [append_ofList_sign, String.ofList_toList] at cut
  rw [cut, List.tail?_cons, Option.map_some, String.ofList_toList]

theorem argument_plain (plain_ : IsPlain arg) (state : State) :
    argument state arg = plain state arg := by
  cases plain_ with
  | inl dash =>
      subst dash
      rfl
  | inr bare =>
      unfold argument
      split
      · rename_i dashes
        exact absurd (by rw [dashes]; rfl) bare
      · rename_i dash
        exact absurd (by rw [dash]; rfl) bare
      · rfl

theorem argument_letters {c : Char} {rest : List Char} (chars : arg.toList = '-' :: c :: rest)
    (single : c ≠ '-') (state : State) : argument state arg = short state (c :: rest) := by
  unfold argument
  rw [chars]
  split
  · rename_i dashes
    cases dashes
    exact absurd rfl single
  · rename_i letters
    cases letters
    rfl
  · rename_i none_
    exact absurd rfl (none_ c rest)

theorem short_attached {c : Char} (bare : c ≠ '=') (rest : List Char) (state : State) :
    short state ('c' :: c :: rest) = (do
      let args ← settle state.1 state.2
      return (← set args .config (String.ofList (c :: rest)), none)) := by
  unfold short
  cases settle state.1 state.2 with
  | error refusal => rfl
  | ok args =>
      simp only [bind, Except.bind]
      split
      · rename_i none_
        cases none_
      · rename_i sign
        cases sign
        exact absurd rfl bare
      · rfl

/-- Whatever waits is settled, then one thing is said and nothing waits any more. -/
theorem settle_then (settled : Except Refusal Arguments)
    (next : Arguments → Except Refusal Arguments) :
    (do let args ← settled; return (← next args, none) : Except Refusal State) =
      settled.bind fun args => (next args).map (·, none) := by
  cases settled with
  | error refusal => rfl
  | ok args =>
      change (next args).bind (fun args => .ok (args, none)) = (next args).map (·, none)
      cases next args <;> rfl

theorem argument_whole {said : Saying} (whole : Whole said arg) (state : State) :
    argument state arg =
      (settle state.1 state.2).bind fun args => (say args said).map (·, none) := by
  rw [← settle_then]
  cases whole with
  | strict => rfl
  | long opt text =>
      rw [argument_joined opt.bare_name]
      unfold long
      rw [opt.named?_name]
      rfl
  | @short text something bare =>
      cases chars : text.toList with
      | nil => exact absurd (String.toList_inj.mp chars) something
      | cons c rest =>
          have value : text = String.ofList (c :: rest) := by
            rw [← chars, String.ofList_toList]
          have other : c ≠ '=' := by
            rintro rfl
            rw [chars] at bare
            exact bare rfl
          have letters : ("-c" ++ text).toList = '-' :: 'c' :: c :: rest := by simp [chars]
          rw [argument_letters letters (by decide), short_attached other, ← value]
          rfl
  | shortEquals text =>
      have letters : ("-c=" ++ text).toList = '-' :: 'c' :: '=' :: text.toList := by simp
      rw [argument_letters letters (by decide)]
      change (do
        let args ← settle state.1 state.2
        return (← set args .config (String.ofList text.toList), none)) = _
      rw [String.ofList_toList]
      rfl

theorem argument_opens (opens : Opens opt arg) (state : State) :
    argument state arg = (settle state.1 state.2).map fun args => (args, some ⟨opt, none⟩) := by
  cases opens with
  | long =>
      rw [argument_long opt.bare_name]
      unfold long
      rw [opt.named?_name]
  | short =>
      change short state ['c'] = _
      unfold short
      cases settle state.1 state.2 <;> rfl

-- Every argument.

/-- What an argument can be. An argument of no other kind is refused wherever it stands. -/
inductive Kind (arg : String) : Prop where
  | whole (said : Saying) (whole : Whole said arg)
  | opens (opt : Opt) (opens : Opens opt arg)
  | plain (plain : IsPlain arg)
  | refused (refused : ∀ state after, argument state arg ≠ .ok after)

theorem long_flag {name : String} {value : Option String} {after : State}
    (noOpt : Opt.named? name = none) (accepted : long state name value = .ok after) :
    name = "strict" ∧ value = none := by
  unfold long at accepted
  rw [noOpt] at accepted
  cases named : Flag.named? name with
  | none =>
      rw [named] at accepted
      cases accepted
  | some flag =>
      rw [named] at accepted
      cases value with
      | some text => cases accepted
      | none =>
          refine ⟨?_, rfl⟩
          unfold Flag.named? at named
          split at named
          · rfl
          · cases named
            obtain ⟨_, _, raised⟩ := bind_eq_ok accepted
            cases raised
          · cases named
            obtain ⟨_, _, raised⟩ := bind_eq_ok accepted
            cases raised
          · cases named

theorem kind_of_dashes {rest : List Char} (chars : arg.toList = '-' :: '-' :: rest) : Kind arg := by
  -- The argument in three parts: the dashes, the name, and the value with its sign.
  obtain ⟨name, tail, bare, cut, rfl⟩ : ∃ name tail, '=' ∉ name.toList ∧
      (∀ c ∈ tail.head?, c = '=') ∧ arg = "--" ++ name ++ String.ofList tail := by
    refine ⟨String.ofList (rest.takeWhile (· ≠ '=')), rest.dropWhile (· ≠ '='), ?_, ?_, ?_⟩
    · rw [String.toList_ofList]
      intro member
      simpa using List.all_eq_true.mp List.all_takeWhile _ member
    · intro c first
      have stops := List.head?_dropWhile_not (· ≠ '=') rest
      rw [first] at stops
      simpa using stops
    · apply String.toList_inj.mp
      rw [chars]
      simp
  cases named : Opt.named? name with
  | some opt =>
      obtain rfl := Opt.name_of_named? named
      cases tail with
      | nil =>
          rw [append_ofList_nil]
          exact .opens opt (.long opt)
      | cons c value =>
          obtain rfl := cut c rfl
          rw [append_ofList_sign]
          exact .whole _ (.long opt _)
  | none =>
      by_cases isStrict : name = "strict" ∧ tail = []
      · obtain ⟨rfl, rfl⟩ := isStrict
        exact .whole .strict .strict
      · refine .refused fun state after accepted => isStrict ?_
        rw [argument_dashes bare state tail cut] at accepted
        have flag := long_flag named accepted
        cases tail with
        | nil => exact ⟨flag.1, rfl⟩
        | cons c value => cases flag.2

theorem kind_of_letters {c : Char} {rest : List Char} (chars : arg.toList = '-' :: c :: rest)
    (single : c ≠ '-') : Kind arg := by
  by_cases isConfig : c = 'c'
  · subst isConfig
    have attached : arg = "-c" ++ String.ofList rest := by
      apply String.toList_inj.mp
      rw [chars]
      simp
    cases rest with
    | nil =>
        subst attached
        exact .opens .config .short
    | cons d rest =>
        by_cases sign : d = '='
        · have equals : arg = "-c=" ++ String.ofList rest := by
            apply String.toList_inj.mp
            rw [chars, sign]
            simp
          subst equals
          exact .whole _ (.shortEquals _)
        · subst attached
          refine .whole _ (.short ?_ ?_)
          · intro none_
            simpa using congrArg String.toList none_
          · simpa using sign
  · refine .refused fun state after accepted => ?_
    rw [argument_letters chars single] at accepted
    unfold short at accepted
    split at accepted
    · rename_i none_
      cases none_
    · rename_i config
      cases config
      exact isConfig rfl
    · obtain ⟨_, _, raised⟩ := bind_eq_ok accepted
      cases raised
    · obtain ⟨_, _, raised⟩ := bind_eq_ok accepted
      cases raised
    · cases accepted

theorem kind (arg : String) : Kind arg := by
  cases chars : arg.toList with
  | nil => exact .plain (.inr (by simp [chars]))
  | cons c rest =>
      by_cases first : c = '-'
      · subst first
        cases rest with
        | nil => exact .plain (.inl (String.toList_inj.mp chars))
        | cons d rest =>
            by_cases second : d = '-'
            · subst second
              exact kind_of_dashes chars
            · exact kind_of_letters chars second
      · exact .plain (.inr (by simpa [chars] using first))

-- Lines.

variable {said : Saying} {sayings : List Saying}

theorem Whole.goesOn (whole : Whole said arg) : arg ≠ "--" := by
  intro dashes
  have chars := congrArg String.toList dashes
  cases whole with
  | strict => exact absurd chars (by decide)
  | long => simp at chars
  | short => simp at chars
  | shortEquals => simp at chars

theorem Opens.goesOn (opens : Opens opt arg) : arg ≠ "--" := by
  intro dashes
  have chars := congrArg String.toList dashes
  cases opens with
  | long => cases opt <;> exact absurd chars (by decide)
  | short => exact absurd chars (by decide)

theorem IsPlain.goesOn (plain_ : IsPlain arg) : arg ≠ "--" := by
  rintro rfl
  cases plain_ with
  | inl dash => exact absurd dash (by decide)
  | inr bare => exact bare rfl

-- The induction is for any option that waits: each new argument settles it first, and a value that
-- stands by itself is one more that waits.
theorem parseFrom_spelled (spells : Spells sayings line) (state : State) :
    parseFrom state line =
      (settle state.1 state.2).bind fun args => sayings.foldlM say args := by
  induction spells generalizing state with
  | nothing =>
      rw [parseFrom]
      cases settle state.1 state.2 <;> rfl
  | closed =>
      rw [parseFrom, if_pos rfl]
      change settle state.1 state.2 = _
      cases settle state.1 state.2 <;> rfl
  | @whole said sayings arg line whole _ ih =>
      rw [parseFrom_cons whole.goesOn, argument_whole whole]
      cases settle state.1 state.2 with
      | error refusal => rfl
      | ok args =>
          dsimp only [Except.bind]
          rw [List.foldlM_cons]
          cases say args said with
          | error refusal => rfl
          | ok more => exact ih (more, none)
  | @apart opt text sayings arg line opens plain_ _ ih =>
      rw [parseFrom_cons opens.goesOn, argument_opens opens]
      cases settle state.1 state.2 with
      | error refusal => rfl
      | ok args =>
          dsimp only [Except.bind, Except.map]
          rw [parseFrom_cons plain_.goesOn, argument_plain plain_, List.foldlM_cons]
          exact ih (args, some ⟨opt, some text⟩)

/-- A spelled line is read as what it says, one thing after another. -/
theorem parse_spelled (spells : Spells sayings line) : parse line = sayings.foldlM say {} :=
  parseFrom_spelled spells ({}, none)

/-- How a line goes on behind an option that waits for its value, or has just got it. -/
inductive Continues : Option Pending → List Saying → List String → Prop where
  | free {sayings : List Saying} {line : List String} (spells : Spells sayings line) :
      Continues none sayings line
  | valued {opt : Opt} {text : String} {sayings : List Saying} {line : List String}
      (spells : Spells sayings line) :
      Continues (some ⟨opt, some text⟩) (.value opt text :: sayings) line
  | waiting {opt : Opt} {text : String} {sayings : List Saying} {line : List String}
      (plain : IsPlain text) (spells : Spells sayings line) :
      Continues (some ⟨opt, none⟩) (.value opt text :: sayings) (text :: line)

theorem continues_of_settled {pending : Option Pending} {args after : Arguments}
    (settled : settle args pending = .ok after) (spells : Spells sayings line) :
    ∃ sayings, Continues pending sayings line := by
  rcases pending with _ | ⟨opt, _ | text⟩
  · exact ⟨sayings, .free spells⟩
  · cases settled
  · exact ⟨_, .valued spells⟩

theorem spelled_of_parseFrom {state : State} (accepted : parseFrom state line = .ok args) :
    ∃ sayings, Continues state.2 sayings line := by
  induction line generalizing state with
  | nil =>
      rw [parseFrom] at accepted
      exact continues_of_settled accepted .nothing
  | cons arg line ih =>
      by_cases closes : arg = "--"
      · subst closes
        rw [parseFrom, if_pos rfl] at accepted
        -- Behind the dashes there is nothing that could be accepted.
        cases line with
        | nil => exact continues_of_settled accepted .closed
        | cons other line => cases accepted
      · rw [parseFrom_cons closes] at accepted
        cases kind arg with
        | whole said whole =>
            rw [argument_whole whole] at accepted
            obtain ⟨after, taken, accepted⟩ := bind_eq_ok accepted
            obtain ⟨args, settled, told⟩ := bind_eq_ok taken
            obtain ⟨more, _, rfl⟩ := map_eq_ok told
            obtain ⟨_, rest⟩ := ih accepted
            cases rest with
            | free spells => exact continues_of_settled settled (.whole whole spells)
        | opens opt opens =>
            rw [argument_opens opens] at accepted
            obtain ⟨after, taken, accepted⟩ := bind_eq_ok accepted
            obtain ⟨args, settled, rfl⟩ := map_eq_ok taken
            obtain ⟨_, rest⟩ := ih accepted
            cases rest with
            | waiting plain_ spells =>
                exact continues_of_settled settled (.apart opens plain_ spells)
        | plain plain_ =>
            rw [argument_plain plain_] at accepted
            obtain ⟨args, pending⟩ := state
            rcases pending with _ | ⟨opt, _ | text⟩
            · cases accepted
            · obtain ⟨_, rest⟩ := ih accepted
              cases rest with
              | valued spells => exact ⟨_, .waiting plain_ spells⟩
            · cases accepted
        | refused refused =>
            obtain ⟨after, taken, _⟩ := bind_eq_ok accepted
            exact absurd taken (refused state after)

theorem spelled_of_parse (accepted : parse line = .ok args) : ∃ sayings, Spells sayings line := by
  obtain ⟨_, rest⟩ := spelled_of_parseFrom accepted
  cases rest with
  | free spells => exact ⟨_, spells⟩

-- What an accepted line says of an option.

@[reducible] def Opt.Value : Opt → Type
  | .config => String
  | .readTimeout => Nat
  | .maxFrameSize => Nat
  | .logLevel => String

def Opt.read? : (opt : Opt) → String → Option opt.Value
  | .config, text => if text.isEmpty then none else some text
  | .readTimeout, text => Text.word? text.toList
  | .maxFrameSize, text => Text.word? text.toList
  | .logLevel, text => some text

def Arguments.value? (args : Arguments) : (opt : Opt) → Option opt.Value
  | .config => args.config
  | .readTimeout => args.readTimeout
  | .maxFrameSize => args.maxFrameSize
  | .logLevel => args.logLevel

def Arguments.put (args : Arguments) : (opt : Opt) → opt.Value → Arguments
  | .config, path => { args with config := some path }
  | .readTimeout, n => { args with readTimeout := some n }
  | .maxFrameSize, n => { args with maxFrameSize := some n }
  | .logLevel, level => { args with logLevel := some level }

theorem value?_put (args : Arguments) (opt : Opt) (v : opt.Value) :
    (args.put opt v).value? opt = some v := by
  cases opt <;> rfl

theorem value?_put_other {other : Opt} (differs : other ≠ opt) (args : Arguments) (v : opt.Value) :
    (args.put opt v).value? other = args.value? other := by
  cases opt <;> cases other <;> first | rfl | exact absurd rfl differs

theorem strict_put (args : Arguments) (v : opt.Value) : (args.put opt v).strict = args.strict := by
  cases opt <;> rfl

theorem word_eq_ok {n : Nat} (accepted : word text = .ok n) : Text.word? text.toList = some n := by
  unfold word at accepted
  split at accepted
  · cases accepted
    assumption
  · cases accepted

theorem set_eq_ok {after : Arguments} (accepted : set args opt text = .ok after) :
    args.value? opt = none ∧ ∃ v, opt.read? text = some v ∧ after = args.put opt v := by
  unfold set at accepted
  split at accepted
  · cases accepted
  · rename_i fresh
    have free : args.value? opt = none := by
      cases opt <;> exact Option.not_isSome_iff_eq_none.mp fresh
    refine ⟨free, ?_⟩
    cases opt with
    | config =>
        dsimp only at accepted
        split at accepted
        · cases accepted
        · rename_i something
          exact ⟨text, if_neg something, (Except.ok.inj accepted).symm⟩
    | readTimeout =>
        obtain ⟨n, read, same⟩ := map_eq_ok accepted
        exact ⟨n, word_eq_ok read, same.symm⟩
    | maxFrameSize =>
        obtain ⟨n, read, same⟩ := map_eq_ok accepted
        exact ⟨n, word_eq_ok read, same.symm⟩
    | logLevel => exact ⟨text, rfl, (Except.ok.inj accepted).symm⟩

def Gives (sayings : List Saying) (opt : Opt) (v : opt.Value) : Prop :=
  ∃ text, .value opt text ∈ sayings ∧ opt.read? text = some v

variable {after : Arguments}

theorem raise_eq_ok (accepted : raise args .strict = .ok after) :
    after = { args with strict := true } := by
  dsimp only [raise] at accepted
  split at accepted
  · cases accepted
  · exact (Except.ok.inj accepted).symm

theorem say_strict (told : say args said = .ok after) :
    after.strict = true ↔ args.strict = true ∨ said = .strict := by
  cases said with
  | strict =>
      obtain rfl := raise_eq_ok told
      simp
  | value opt text =>
      obtain ⟨_, v, _, rfl⟩ := set_eq_ok told
      simp [strict_put]

theorem say_value (told : say args said = .ok after) (v : opt.Value) :
    after.value? opt = some v ↔ args.value? opt = some v ∨ Gives [said] opt v := by
  cases said with
  | strict =>
      obtain rfl := raise_eq_ok told
      cases opt <;> simp [Gives, Arguments.value?]
  | value other text =>
      obtain ⟨free, w, read, rfl⟩ := set_eq_ok told
      by_cases same : opt = other
      · subst same
        simp [value?_put, free, Gives, read]
      · simp [value?_put_other same, Gives, same]

theorem tell_strict (told : sayings.foldlM say args = .ok after) :
    after.strict = true ↔ args.strict = true ∨ .strict ∈ sayings := by
  induction sayings generalizing args with
  | nil =>
      cases told
      simp
  | cons said sayings ih =>
      rw [List.foldlM_cons] at told
      obtain ⟨more, first, rest⟩ := bind_eq_ok told
      rw [ih rest, say_strict first, List.mem_cons, or_assoc, @eq_comm _ said]

theorem tell_value (told : sayings.foldlM say args = .ok after) (v : opt.Value) :
    after.value? opt = some v ↔ args.value? opt = some v ∨ Gives sayings opt v := by
  induction sayings generalizing args with
  | nil =>
      cases told
      simp [Gives]
  | cons said sayings ih =>
      rw [List.foldlM_cons] at told
      obtain ⟨more, first, rest⟩ := bind_eq_ok told
      have either : Gives (said :: sayings) opt v ↔ Gives [said] opt v ∨ Gives sayings opt v := by
        simp [Gives, or_and_right, exists_or]
      rw [ih rest, say_value first, either, or_assoc]

theorem parse_strict (spells : Spells sayings line) (accepted : parse line = .ok args) :
    args.strict = true ↔ .strict ∈ sayings := by
  rw [parse_spelled spells] at accepted
  simpa using tell_strict accepted

theorem parse_value (spells : Spells sayings line) (accepted : parse line = .ok args) (opt : Opt)
    (v : opt.Value) : args.value? opt = some v ↔ Gives sayings opt v := by
  rw [parse_spelled spells] at accepted
  have told := tell_value accepted v
  cases opt <;> simpa [Arguments.value?] using told

end BuildPeer.CommandLine

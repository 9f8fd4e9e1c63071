import ExportList.Command.Invocation
import ExportList.Proofs.Document
import Mathlib.Data.List.Nodup
import Mathlib.Data.List.TakeWhile

/-!
Arguments of the scan command in any order.  No two of its options agree in their first letters, so
that each can be cut short to one letter, and the settings that arguments lead to depend only on
which of them there are and which come last.
-/

set_option autoImplicit false

namespace ExportList.Command

/-- An option written in full, or cut short with at least one letter behind the two dashes. -/
structure Spelling (name : Text) where
  text : Text
  begins : text <+: name
  letters : 3 ≤ text.length

/-- The argument that spells an option, with a value behind an equals sign if there is one. -/
def Spelling.argument {name : Text} (s : Spelling name) (value : Option Text) : Text :=
  s.text ++ value.elim [] (CodePoint.ofChar '=' :: ·)

/-- The name of an option: two dashes, and no equals sign. -/
def IsOptionName (name : Text) : Prop := Text.ofString "--" <+: name ∧ CodePoint.ofChar '=' ∉ name

instance : DecidablePred IsOptionName := fun _ => inferInstanceAs (Decidable (_ ∧ _))

/-- Options that differ in the first letter behind two dashes. -/
def DifferEarly (names : List Text) : Prop := (names.map (List.take 3)).Nodup

instance : DecidablePred DifferEarly :=
  fun names => inferInstanceAs (Decidable (names.map (List.take 3)).Nodup)

section Spellings

variable {names : List Text} {name : Text}

/-- At most one option begins with given letters. -/
theorem DifferEarly.filter_startsWith (h : DifferEarly names) {start : Text}
    (letters : 3 ≤ start.length) :
    (names.filter fun name => name.startsWith start) = [] ∨
      ∃ name, (names.filter fun name => name.startsWith start) = [name] := by
  have early : ∀ name ∈ names.filter fun name => name.startsWith start,
      name.take 3 = start.take 3 := by
    intro name member
    obtain ⟨rest, rfl⟩ := List.isPrefixOf_iff_prefix.mp (List.mem_filter.mp member).2
    exact List.take_append_of_le_length letters
  have distinct : ((names.filter fun name => name.startsWith start).map (List.take 3)).Nodup :=
    h.sublist (List.filter_sublist.map _)
  generalize (names.filter fun name => name.startsWith start) = found at early distinct
  match found with
  | [] => exact .inl rfl
  | [name] => exact .inr ⟨name, rfl⟩
  | first :: second :: rest =>
    have same := (early first (by simp)).trans (early second (by simp)).symm
    simp [same] at distinct

theorem DifferEarly.filter_eq (h : DifferEarly names) (s : Spelling name) (member : name ∈ names) :
    (names.filter fun name => name.startsWith s.text) = [name] := by
  have found : name ∈ names.filter fun name => name.startsWith s.text :=
    List.mem_filter.mpr ⟨member, List.isPrefixOf_iff_prefix.mpr s.begins⟩
  rcases h.filter_startsWith s.letters with none | ⟨other, single⟩
  · rw [none] at found
    cases found
  · rw [single] at found ⊢
    rw [List.mem_singleton.mp found]

variable (s : Spelling name)

theorem Spelling.startsWith_dashes (isOption : IsOptionName name) (value : Option Text) :
    (s.argument value).startsWith "--" = true := by
  have dashes : Text.ofString "--" <+: s.text := by
    refine List.prefix_of_prefix_length_le isOption.1 s.begins ?_
    exact Nat.le_trans (by decide) s.letters
  exact List.isPrefixOf_iff_prefix.mpr (dashes.trans (List.prefix_append _ _))

theorem Spelling.splitEquals_argument (isOption : IsOptionName name) (value : Option Text) :
    splitEquals (s.argument value) = (s.text, value) := by
  have plain : ∀ c ∈ s.text, decide (c ≠ CodePoint.ofChar '=') = true := by
    intro c member
    apply decide_eq_true
    rintro rfl
    exact isOption.2 (s.begins.subset member)
  cases value with
  | none =>
    rw [splitEquals, argument, Option.elim_none, List.append_nil,
      List.dropWhile_eq_nil_iff.mpr plain]
  | some value =>
    rw [splitEquals, argument, Option.elim_some, List.dropWhile_append_of_pos plain,
      List.takeWhile_append_of_pos plain]
    simp

theorem Spelling.abbreviations_argument (isOption : IsOptionName name) (names : List Text)
    (value : Option Text) :
    abbreviations names (s.argument value) =
      (names.filter fun name => name.startsWith s.text).map fun name =>
        (name, value.map fun v => (true, v)) := by
  rw [abbreviations, if_pos (s.startsWith_dashes isOption value), s.splitEquals_argument isOption]

theorem Spelling.readArgument_argument (isOption : IsOptionName name) (names : List Text)
    (value : Option Text) :
    readArgument names (s.argument value) =
      if names.contains (s.argument value) then .ok (.option (s.argument value) none)
      else if value.isSome && names.contains s.text then
        .ok (.option s.text (value.map fun v => (true, v)))
      else readArgument.readAbbreviation (s.argument value)
        (abbreviations names (s.argument value)) := by
  have long : 3 ≤ (s.argument value).length := by
    have letters := s.letters
    rw [argument, List.length_append]
    omega
  have notDashes : s.argument value ≠ Text.ofString "--" := by
    intro same
    rw [same] at long
    exact absurd long (by decide)
  have dash : (s.argument value).startsWith "-" = true := by
    have dashes := List.isPrefixOf_iff_prefix.mp (s.startsWith_dashes isOption value)
    have first : Text.ofString "-" <+: Text.ofString "--" := by decide
    exact List.isPrefixOf_iff_prefix.mpr (first.trans dashes)
  rw [readArgument, if_neg notDashes, dash, if_neg (by decide),
    if_neg (by omega : ¬ (s.argument value).length = 1), s.splitEquals_argument isOption]
  cases value with
  | none => rfl
  | some value => rfl

theorem Spelling.readArgument_of_mem (isOption : IsOptionName name) (differ : DifferEarly names)
    (plain : ∀ other ∈ names, CodePoint.ofChar '=' ∉ other) (member : name ∈ names)
    (value : Option Text) :
    readArgument names (s.argument value) = .ok (.option name (value.map fun v => (true, v))) := by
  have only := differ.filter_eq s member
  -- a name in full begins like itself, so it is the one that was cut short
  have full : s.text ∈ names → s.text = name := by
    intro among
    have found : s.text ∈ names.filter fun name => name.startsWith s.text :=
      List.mem_filter.mpr ⟨among, List.isPrefixOf_iff_prefix.mpr (List.prefix_refl _)⟩
    rw [only] at found
    exact List.mem_singleton.mp found
  rw [s.readArgument_argument isOption, s.abbreviations_argument isOption, only]
  split_ifs with whole named
  · rw [List.contains_iff_mem] at whole
    cases value with
    | none =>
      have same : s.argument none = s.text := List.append_nil _
      rw [same] at whole ⊢
      rw [full whole]
      rfl
    | some value => exact absurd (by simp [argument]) (plain _ whole)
  · rw [Bool.and_eq_true, List.contains_iff_mem] at named
    rw [full named.2]
  · rfl

theorem Spelling.exists_readArgument (isOption : IsOptionName name) (differ : DifferEarly names)
    (value : Option Text) : ∃ reading, readArgument names (s.argument value) = .ok reading := by
  rw [s.readArgument_argument isOption, s.abbreviations_argument isOption]
  split_ifs
  · exact ⟨_, rfl⟩
  · exact ⟨_, rfl⟩
  · rcases differ.filter_startsWith s.letters with none | ⟨other, single⟩
    · rw [none, List.map_nil, readArgument.readAbbreviation]
      split_ifs
      · exact ⟨_, rfl⟩
      · exact ⟨_, rfl⟩
    · rw [single]
      exact ⟨_, rfl⟩

end Spellings

/-- A text that is not taken for an option. -/
def IsWord (t : Text) : Prop := t.startsWith "-" = false

instance : DecidablePred IsWord := fun _ => inferInstanceAs (Decidable (_ = false))

theorem IsWord.readArgument {word : Text} (h : IsWord word) (names : List Text) :
    readArgument names word = .ok .word := by
  have notDashes : word ≠ Text.ofString "--" := by
    rintro rfl
    exact absurd h (by decide)
  rw [Command.readArgument, if_neg notDashes, h]
  rfl

inductive Flag where
  | jsx
  | all
  | semicolon
  | write
deriving DecidableEq, Repr

def Flag.name : Flag → Text
  | .jsx => "--jsx"
  | .all => "--all"
  | .semicolon => "--semicolon"
  | .write => "--write"

/-- What one argument, or an option with its value, says to the scan command.  The value stands in
an argument of its own or is attached to the option. -/
inductive Item where
  | input (word : Text) (isWord : IsWord word)
  | flag (flag : Flag) (spelling : Spelling flag.name)
  | dialect (dialect : Dialect) (spelling : Spelling "--dialect") (attached : Bool)
  | cacheDirectory (directory : Text) (isWord : IsWord directory)
    (spelling : Spelling "--cache-dir")
    (attached : Bool) (given : attached = true → directory ≠ [])

namespace Item

def withValue {name : Text} (spelling : Spelling name) (value : Text) (attached : Bool) :
    List Text :=
  if attached then [spelling.argument (some value)] else [spelling.argument none, value]

def arguments : Item → List Text
  | .input word _ => [word]
  | .flag _ spelling => [spelling.argument none]
  | .dialect chosen spelling attached => withValue spelling chosen.name attached
  | .cacheDirectory directory _ spelling attached _ => withValue spelling directory attached

def input? : Item → Option Text
  | .input word _ => some word
  | _ => none

def isFlag (flag : Flag) : Item → Bool
  | .flag other _ => other = flag
  | _ => false

def dialect? : Item → Option Dialect
  | .dialect chosen _ _ => some chosen
  | _ => none

def cacheDirectory? : Item → Option Text
  | .cacheDirectory directory _ _ _ _ => some directory
  | _ => none

def valueReadings {name : Text} (spelling : Spelling name) (value : Text) (attached : Bool) :
    List (Text × Reading) :=
  if attached then [(spelling.argument (some value), .option name (some (true, value)))]
  else [(spelling.argument none, .option name none), (value, .word)]

def readings : Item → List (Text × Reading)
  | .input word _ => [(word, .word)]
  | .flag chosen spelling => [(spelling.argument none, .option chosen.name none)]
  | .dialect chosen spelling attached => valueReadings spelling chosen.name attached
  | .cacheDirectory directory _ spelling attached _ => valueReadings spelling directory attached

theorem map_fst_readings (item : Item) : item.readings.map Prod.fst = item.arguments := by
  cases item with
  | input word isWord => rfl
  | flag chosen spelling => rfl
  | dialect chosen spelling attached => cases attached <;> rfl
  | cacheDirectory directory isWord spelling attached given => cases attached <;> rfl

end Item

/-- The settings that items lead to: flags are set if they occur, and of several values the last
counts. -/
def settingsOf (items : List Item) : Settings where
  input := (items.filterMap Item.input?).getLast?
  dialect := (items.filterMap Item.dialect?).getLast?
  jsx := items.any (Item.isFlag .jsx)
  all := items.any (Item.isFlag .all)
  semicolon := items.any (Item.isFlag .semicolon)
  write := items.any (Item.isFlag .write)
  cacheDirectory := (items.filterMap Item.cacheDirectory?).getLast?

theorem readArguments_map_fst {names : List Text} {readings : List (Text × Reading)}
    (each : ∀ r ∈ readings, readArgument names r.1 = .ok r.2 ∧ r.2 ≠ .dashes) :
    readArguments names (readings.map Prod.fst) = .ok readings := by
  induction readings with
  | nil => rfl
  | cons r readings ih =>
    obtain ⟨⟨own, notDashes⟩, others⟩ := List.forall_mem_cons.mp each
    obtain ⟨argument, reading⟩ := r
    rw [List.map_cons, readArguments, own, ih others]
    cases reading with
    | dashes => exact absurd rfl notDashes
    | _ => rfl

theorem exists_readArguments {names arguments : List Text}
    (each : ∀ argument ∈ arguments, ∃ reading, readArgument names argument = .ok reading) :
    ∃ readings, readArguments names arguments = .ok readings ∧
      readings.map Prod.fst = arguments := by
  induction arguments with
  | nil => exact ⟨[], rfl, rfl⟩
  | cons argument arguments ih =>
    obtain ⟨⟨reading, own⟩, others⟩ := List.forall_mem_cons.mp each
    obtain ⟨readings, rest, same⟩ := ih others
    rw [readArguments, own]
    cases reading with
    | dashes => exact ⟨_, rfl, by simp [Function.comp_def]⟩
    | _ => exact ⟨_, by rw [rest]; rfl, by rw [List.map_cons, same]⟩

theorem differEarly_scanNames : DifferEarly scanNames := by decide

theorem differEarly_programNames : DifferEarly programNames := by decide

theorem Flag.name_mem (flag : Flag) : flag.name ∈ scanNames ∧ IsOptionName flag.name := by
  cases flag <;> decide

theorem isWord_dialectName (dialect : Dialect) : IsWord dialect.name := by
  cases dialect <;> decide

/-- What holds of words and of all spellings of options holds of the arguments of items. -/
theorem Item.forall_readings {P : Text × Reading → Prop}
    (word : ∀ word, IsWord word → P (word, .word))
    (option : ∀ (name : Text) (s : Spelling name) (value : Option Text),
      name ∈ scanNames → IsOptionName name →
      P (s.argument value, .option name (value.map fun v => (true, v))))
    (item : Item) : ∀ r ∈ item.readings, P r := by
  have valued : ∀ {name value : Text} (s : Spelling name) (attached : Bool), name ∈ scanNames →
      IsOptionName name → IsWord value → ∀ r ∈ Item.valueReadings s value attached, P r := by
    intro name value s attached member isOption isWord
    cases attached with
    | true => exact List.forall_mem_singleton.mpr (option name s (some value) member isOption)
    | false =>
      exact List.forall_mem_cons.mpr ⟨option name s none member isOption,
        List.forall_mem_singleton.mpr (word value isWord)⟩
  cases item with
  | input text isWord => exact List.forall_mem_singleton.mpr (word text isWord)
  | flag chosen spelling =>
    obtain ⟨member, isOption⟩ := chosen.name_mem
    exact List.forall_mem_singleton.mpr (option _ spelling none member isOption)
  | dialect chosen spelling attached =>
    exact valued spelling attached (by decide) (by decide) (isWord_dialectName chosen)
  | cacheDirectory directory isWord spelling attached given =>
    exact valued spelling attached (by decide) (by decide) isWord

/-- The scan command reads its options as such, cut short or not. -/
theorem readArguments_items (items : List Item) :
    readArguments scanNames (items.flatMap Item.arguments) = .ok (items.flatMap Item.readings) := by
  have plain : ∀ other ∈ scanNames, CodePoint.ofChar '=' ∉ other := by decide
  have arguments : items.flatMap Item.arguments = (items.flatMap Item.readings).map Prod.fst := by
    rw [List.map_flatMap]
    exact List.flatMap_congr fun item _ => item.map_fst_readings.symm
  rw [arguments]
  apply readArguments_map_fst
  intro r member
  obtain ⟨item, _, member⟩ := List.mem_flatMap.mp member
  refine item.forall_readings (P := fun r => readArgument scanNames r.1 = .ok r.2 ∧ r.2 ≠ .dashes)
    ?_ ?_ r member
  · intro word isWord
    exact ⟨isWord.readArgument scanNames, by simp⟩
  · intro name s value among isOption
    exact ⟨s.readArgument_of_mem isOption differEarly_scanNames plain among value, by simp⟩

/-- The program itself takes them for words or for options that it does not have; either way it can
tell what they look like, and leaves them to the command. -/
theorem exists_readArguments_items (items : List Item) :
    ∃ readings, readArguments programNames (items.flatMap Item.arguments) = .ok readings ∧
      readings.map Prod.fst = items.flatMap Item.arguments := by
  apply exists_readArguments
  intro argument member
  obtain ⟨item, _, member⟩ := List.mem_flatMap.mp member
  rw [← item.map_fst_readings] at member
  obtain ⟨r, read, rfl⟩ := List.mem_map.mp member
  refine item.forall_readings (P := fun r => ∃ reading, readArgument programNames r.1 = .ok reading)
    ?_ ?_ r read
  · intro word isWord
    exact ⟨_, isWord.readArgument programNames⟩
  · intro name s value _ isOption
    exact s.exists_readArgument isOption differEarly_programNames value

/-- How far the scan command is once it has read some items. -/
def progressOf (items : List Item) : Progress :=
  { settings := settingsOf items
    isAfterInput := items.getLast?.any fun item => item.input?.isSome }

section Steps

variable {items : List Item}

theorem progressOf_concat {item : Item} (h : item.input? = none) :
    progressOf (items ++ [item]) =
      (progressOf items).withSettings (settingsOf (items ++ [item])) := by
  simp [progressOf, Progress.withSettings, h]

theorem settingsOf_flag (chosen : Flag) (spelling : Spelling chosen.name) :
    (settingsOf items).setFlag chosen.name = settingsOf (items ++ [.flag chosen spelling]) := by
  cases chosen <;>
    simp [settingsOf, Settings.setFlag, Flag.name, Item.isFlag, Item.input?, Item.dialect?,
      Item.cacheDirectory?]

theorem settingsOf_dialect (chosen : Dialect) (spelling : Spelling "--dialect") (attached : Bool) :
    (settingsOf items).setValue "--dialect" chosen.name =
      .ok (settingsOf (items ++ [.dialect chosen spelling attached])) := by
  have known : Dialect.ofName? chosen.name = some chosen := by cases chosen <;> decide
  rw [Settings.setValue, if_pos rfl, known]
  simp [settingsOf, Item.isFlag, Item.input?, Item.dialect?, Item.cacheDirectory?]

theorem settingsOf_cacheDirectory {directory : Text} (isWord : IsWord directory)
    (spelling : Spelling "--cache-dir") (attached : Bool)
    (given : attached = true → directory ≠ []) :
    (settingsOf items).setValue "--cache-dir" directory =
      .ok (settingsOf (items ++ [.cacheDirectory directory isWord spelling attached given])) := by
  rw [Settings.setValue, if_neg (by decide)]
  simp [settingsOf, Item.isFlag, Item.input?, Item.dialect?, Item.cacheDirectory?]

theorem foldlM_valueReadings {p : Progress} {name value : Text} {settings : Settings}
    (s : Spelling name) (attached : Bool) (notHelp : helpNames.contains name = false)
    (takes : takesValue name = true) (ready : p.awaiting = none)
    (set : p.settings.setValue name value = .ok settings) :
    (Item.valueReadings s value attached).foldlM Progress.step p =
      .ok (p.withSettings settings) := by
  cases attached with
  | true =>
    have step : p.step (s.argument (some value), .option name (some (true, value))) =
        .ok (p.withSettings settings) := by
      simp only [Progress.step, ready, Progress.readOption, notHelp, takes, set]
      rfl
    exact bind_eq_ok_iff.mpr ⟨_, step, rfl⟩
  | false =>
    have first : p.step (s.argument none, .option name none) =
        .ok { p with awaiting := some name, isAfterInput := false } := by
      simp only [Progress.step, ready, Progress.readOption, notHelp, takes]
      rfl
    have second :
        Progress.step { p with awaiting := some name, isAfterInput := false } (value, .word) =
        .ok (p.withSettings settings) := by
      simp only [Progress.step, set]
      rfl
    exact bind_eq_ok_iff.mpr ⟨_, first, bind_eq_ok_iff.mpr ⟨_, second, rfl⟩⟩

/-- One more item: the settings become those of all items. -/
theorem foldlM_readings (item : Item)
    (only : item.input? ≠ none → items.filterMap Item.input? = []) :
    item.readings.foldlM Progress.step (progressOf items) = .ok (progressOf (items ++ [item])) := by
  cases item with
  | input word isWord =>
    have first : items.filterMap Item.input? = [] := only (Option.some_ne_none _)
    have step : (progressOf items).step (word, .word) =
        .ok (progressOf (items ++ [.input word isWord])) := by
      simp [Progress.step, progressOf, Progress.readWord, Progress.withSettings, settingsOf, first,
        Item.isFlag, Item.input?, Item.dialect?, Item.cacheDirectory?]
    exact bind_eq_ok_iff.mpr ⟨_, step, rfl⟩
  | flag chosen spelling =>
    have step : (progressOf items).step (spelling.argument none, .option chosen.name none) =
        .ok ((progressOf items).withSettings ((settingsOf items).setFlag chosen.name)) := by
      cases chosen <;> rfl
    rw [progressOf_concat rfl, ← settingsOf_flag]
    exact bind_eq_ok_iff.mpr ⟨_, step, rfl⟩
  | dialect chosen spelling attached =>
    rw [progressOf_concat rfl]
    exact foldlM_valueReadings spelling attached (by decide) (by decide) rfl
      (settingsOf_dialect chosen spelling attached)
  | cacheDirectory directory isWord spelling attached given =>
    rw [progressOf_concat rfl]
    exact foldlM_valueReadings spelling attached (by decide) (by decide) rfl
      (settingsOf_cacheDirectory isWord spelling attached given)

end Steps

/-- All items: the settings are theirs if they name at most one input. -/
theorem foldlM_items (items : List Item) (h : (items.filterMap Item.input?).length ≤ 1) :
    (items.flatMap Item.readings).foldlM Progress.step {} = .ok (progressOf items) := by
  induction items using List.reverseRecOn with
  | nil => rfl
  | append_singleton items item ih =>
    rw [List.filterMap_append, List.length_append] at h
    have before := ih (by omega)
    have last : item.readings.foldlM Progress.step (progressOf items) =
        .ok (progressOf (items ++ [item])) := by
      apply foldlM_readings
      intro names
      obtain ⟨word, named⟩ := Option.ne_none_iff_exists'.mp names
      rw [List.filterMap_cons_some named, List.length_cons] at h
      exact List.eq_nil_of_length_eq_zero (by omega)
    rw [List.flatMap_append, List.flatMap_singleton, List.foldlM_append]
    exact bind_eq_ok_iff.mpr ⟨_, before, last⟩

theorem scanSettings_items {items : List Item} {word : Text}
    (one : items.filterMap Item.input? = [word]) :
    scanSettings (items.flatMap Item.arguments) = .ok (word, settingsOf items, []) := by
  have read : readingsFor .scan scanNames (items.flatMap Item.arguments) =
      .ok (items.flatMap Item.readings) := by
    rw [readingsFor, readArguments_items]
    rfl
  have followed := foldlM_items items (by rw [one, List.length_singleton])
  have input : (progressOf items).settings.input = some word := by
    rw [progressOf, settingsOf, one]
    rfl
  refine bind_eq_ok_iff.mpr ⟨_, read, bind_eq_ok_iff.mpr ⟨_, followed, ?_⟩⟩
  rw [input]
  rfl

/-- What follows the name of the command is left to it. -/
theorem programInvocation_scan (readings : List (Text × Reading)) :
    programInvocation false [] (("scan", .word) :: readings) =
      scanSettings (readings.map Prod.fst) >>= fun (input, settings, more) =>
        invocationWith false more (some (input, settings)) := by
  rw [programInvocation, if_pos rfl]
  · rfl
  · simp
  · simp
  · simp

/-- The arguments of items in any order, one of them the input: the run is a scan of that input,
with the flags that occur and, of several values for an option, the last. -/
theorem invocation_of_items {items : List Item} {word : Text}
    (one : items.filterMap Item.input? = [word]) :
    invocation ("scan" :: items.flatMap Item.arguments) =
      .ok
        { verbose := false
          scan := some (word,
            { input := some word
              dialect := (items.filterMap Item.dialect?).getLast?
              jsx := items.any (Item.isFlag .jsx)
              all := items.any (Item.isFlag .all)
              semicolon := items.any (Item.isFlag .semicolon)
              write := items.any (Item.isFlag .write)
              cacheDirectory := (items.filterMap Item.cacheDirectory?).getLast? }) } := by
  have command : IsWord "scan" := by decide
  obtain ⟨readings, read, same⟩ := exists_readArguments_items items
  have whole : readingsFor .program programNames ("scan" :: items.flatMap Item.arguments) =
      .ok (("scan", .word) :: readings) := by
    rw [readingsFor, readArguments, command.readArgument, read]
    rfl
  have scanned := scanSettings_items one
  rw [settingsOf, one, ← same] at scanned
  refine bind_eq_ok_iff.mpr ⟨_, whole, ?_⟩
  rw [programInvocation_scan, scanned]
  rfl

/-- Options cut short, repeated, with their values in both forms, on both sides of the input. -/
theorem invocation_of_items_mixed :
    ∃ items : List Item,
      items.flatMap Item.arguments =
        ["--w", "--dial=javascript", "a b.ts", "--cache-", "x", "--write", "--d", "typescript"].map
          Text.ofString ∧
      items.filterMap Item.input? = [Text.ofString "a b.ts"] ∧
      invocation ("scan" :: items.flatMap Item.arguments) =
        .ok
          { scan := some ("a b.ts",
              { input := some "a b.ts", dialect := some .typescript, write := true
                cacheDirectory := some "x" }) } := by
  let items : List Item :=
    [.flag .write ⟨"--w", by decide, by decide⟩,
      .dialect .javascript ⟨"--dial", by decide, by decide⟩ true,
      .input "a b.ts" (by decide),
      .cacheDirectory "x" (by decide) ⟨"--cache-", by decide, by decide⟩ false (by decide),
      .flag .write ⟨"--write", by decide, by decide⟩,
      .dialect .typescript ⟨"--d", by decide, by decide⟩ false]
  have one : items.filterMap Item.input? = [Text.ofString "a b.ts"] := rfl
  exact ⟨items, rfl, one, invocation_of_items one⟩

end ExportList.Command

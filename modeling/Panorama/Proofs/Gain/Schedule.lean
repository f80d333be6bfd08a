import Panorama.Proofs.Gain.Bounds

/-!
# Gain schedules are read as they are written

A schedule is read word by word, under the direction of a count that the text itself declares. What
a row takes, and what all rows take, is said by `read_row_eq_ok_iff` and `read_rows_eq_ok_iff`;
`Careful` says that no reading asks for more words than there are and one.
`GainSchedule.parse_exact` puts them together: a text is read exactly if it spells a schedule.
-/

namespace Panorama

/-! ### Words -/

namespace Text

/-- Behind some characters of a word, the words are the pieces between the blank characters that
follow, but for the empty ones. -/
theorem words_from_eq (word text : List Char) : wordsFrom word text
    = ((text.splitOnP isBlank).modifyHead (word.reverse ++ ·)).filter (!·.isEmpty) := by
  induction text generalizing word with
  | nil =>
      cases word with
      | nil => rfl
      | cons => simp [wordsFrom]
  | cons character text ih =>
      rw [wordsFrom, List.splitOnP_cons_eq_if_modifyHead]
      split
      · rw [List.modifyHead_cons, List.append_nil, List.filter_cons, ih]
        have hhead : (text.splitOnP isBlank).modifyHead ([] ++ ·) = text.splitOnP isBlank := by
          cases text.splitOnP isBlank <;> rfl
        rw [List.reverse_nil, hhead, List.isEmpty_reverse]
        cases word <;> rfl
      · rw [ih, List.modifyHead_modifyHead]
        congr 2
        funext piece
        simp

/-- The words of a text are the pieces between its blank characters, but for the empty ones. -/
theorem words_eq (text : String) :
    words text = (text.toList.splitOnP isBlank).filter (!·.isEmpty) := by
  rw [words, words_from_eq]
  cases text.toList.splitOnP isBlank <;> rfl

end Text

/-! ### Counts -/

namespace Decimal

/-- Continue a number with a decimal digit. -/
def shift (total digit : Nat) : Nat := total * 10 + digit

/-- More digits make a number no smaller. -/
theorem le_foldl_shift (digits : List Nat) (total : Nat) : total ≤ digits.foldl shift total := by
  induction digits generalizing total with
  | nil => exact Nat.le_refl total
  | cons digit digits ih =>
      have hstep : total ≤ shift total digit := by
        unfold shift
        omega
      exact hstep.trans (ih _)

/-- A count is continued up to the end of a text if that has digits only, and if the number has at
most 64 bits. -/
theorem count_from_eq_ok_iff {total count : Nat} {text : List Char} (htotal : total < UInt64.size) :
    countFrom total text = .ok count ↔ count < UInt64.size ∧
      ∃ digits, text.mapM digit? = some digits ∧ digits.foldl shift total = count := by
  induction text generalizing total with
  | nil =>
      constructor
      · intro h
        cases h
        exact ⟨htotal, [], rfl, rfl⟩
      · rintro ⟨_, digits, hdigits, hcount⟩
        cases hdigits
        exact congrArg Except.ok hcount
  | cons character text ih =>
      unfold countFrom
      rw [List.mapM_cons]
      cases hdigit : digit? character with
      | none => exact ⟨nofun, fun ⟨_, _, hdigits, _⟩ ↦ nomatch hdigits⟩
      | some digit =>
          have hdigits (digits : List Nat) :
              (some digit >>= fun digit ↦ do return digit :: (← text.mapM digit?)) = some digits ↔
                ∃ others, text.mapM digit? = some others ∧ digits = digit :: others := by
            simp only [Option.bind_eq_bind, Option.bind_some, Option.bind_eq_some_iff,
              Option.pure_def, Option.some.injEq]
            exact exists_congr fun others ↦ and_congr_right fun _ ↦ eq_comm
          simp only [hdigits]
          show (if shift total digit < UInt64.size then countFrom (shift total digit) text
            else .error .tooLarge) = .ok count ↔ _
          by_cases hsize : shift total digit < UInt64.size
          · rw [if_pos hsize, ih hsize]
            refine and_congr_right fun _ ↦ ⟨?_, ?_⟩
            · rintro ⟨others, hothers, hcount⟩
              exact ⟨_, ⟨others, hothers, rfl⟩, hcount⟩
            · rintro ⟨_, ⟨others, hothers, rfl⟩, hcount⟩
              exact ⟨others, hothers, hcount⟩
          · rw [if_neg hsize]
            refine ⟨nofun, ?_⟩
            rintro ⟨hcount, _, ⟨others, _, rfl⟩, rfl⟩
            exact absurd ((le_foldl_shift others _).trans_lt hcount) hsize

/-- A word spells a count of at most 64 bits: decimal digits, of which there is one at least, with
or without a plus sign in front. -/
def SpellsCount (word : List Char) (count : Nat) : Prop :=
  count < UInt64.size ∧ ∃ text digits, (word = text ∨ word = '+' :: text) ∧ text ≠ [] ∧
    text.mapM digit? = some digits ∧ Nat.ofDigits 10 digits.reverse = count

/-- A count is read from the words that spell it. -/
theorem read_count_eq_ok_iff {word : List Char} {count : Nat} :
    readCount? word = .ok count ↔ SpellsCount word count := by
  have hfold (digits : List Nat) :
      digits.foldl shift 0 = Nat.ofDigits 10 digits.reverse := by
    rw [Nat.ofDigits_eq_foldr, List.foldr_reverse]
    congr 1
    funext total digit
    simp [shift, Nat.mul_comm, Nat.add_comm]
  have hstart (text : List Char) : countFrom 0 text = .ok count ↔ count < UInt64.size ∧
      ∃ digits, text.mapM digit? = some digits ∧ Nat.ofDigits 10 digits.reverse = count := by
    rw [count_from_eq_ok_iff (by decide)]
    simp only [hfold]
  -- A sign is no digit, so that a word is spelled in one way.
  have hsign (text : List Char) : ('+' :: text).mapM digit? = none := rfl
  unfold readCount? SpellsCount
  split
  · simp
  · constructor
    · nofun
    · rintro ⟨_, text, digits, rfl | htext, hsome, hdigits, _⟩
      · cases hdigits
      · cases htext
        exact absurd rfl hsome
  · rename_i text hsome
    rw [hstart]
    refine and_congr_right fun _ ↦ ⟨?_, ?_⟩
    · rintro ⟨digits, hdigits, hcount⟩
      refine ⟨text, digits, .inr rfl, ?_, hdigits, hcount⟩
      rintro rfl
      exact hsome rfl
    · rintro ⟨other, digits, rfl | hother, _, hdigits, hcount⟩
      · rw [hsign] at hdigits
        cases hdigits
      · cases hother
        exact ⟨digits, hdigits, hcount⟩
  · rename_i hempty _ hplain
    rw [hstart]
    refine and_congr_right fun _ ↦ ⟨?_, ?_⟩
    · rintro ⟨digits, hdigits, hcount⟩
      exact ⟨word, digits, .inl rfl, hempty, hdigits, hcount⟩
    · rintro ⟨text, digits, rfl | rfl, _, hdigits, hcount⟩
      · exact ⟨digits, hdigits, hcount⟩
      · exact absurd rfl (hplain text)

end Decimal

/-! ### Reading -/

namespace WordReader

variable {α β : Type} {source after : WordSource}

/-- A reading in two parts goes on where the first one ends. -/
theorem bind_apply (first : WordReader α) (later : α → WordReader β) (source : WordSource) :
    (first >>= later) source = match (first source).1 with
      | .ok value => later value (first source).2
      | .error failure => (.error failure, (first source).2) := by
  show ExceptT.bindCont later (first source).1 (first source).2 = _
  cases (first source).1 <;> rfl

/-- A reading in two parts has a result if both parts have. -/
theorem bind_eq_ok_iff {first : WordReader α} {later : α → WordReader β} {result : β} :
    (first >>= later) source = (.ok result, after) ↔ ∃ value middle,
      first source = (.ok value, middle) ∧ later value middle = (.ok result, after) := by
  rw [bind_apply]
  rcases first source with ⟨_ | value, middle⟩
  · exact ⟨nofun, fun ⟨_, _, hfirst, _⟩ ↦ nomatch hfirst⟩
  · constructor
    · intro hlater
      exact ⟨value, middle, rfl, hlater⟩
    · rintro ⟨_, _, hfirst, hlater⟩
      cases hfirst
      exact hlater

/-- A word is taken if there is one. -/
theorem take_eq_ok_iff {missing : Invalid} {word : List Char} :
    take missing source = (.ok word, after) ↔
      source.rest = word :: after.rest ∧ after.asked = source.asked + 1 := by
  obtain ⟨rest, asked⟩ := source
  obtain ⟨afterRest, afterAsked⟩ := after
  cases rest with
  | nil => exact ⟨nofun, nofun⟩
  | cons first rest =>
      show ((.ok first, ⟨rest, asked + 1⟩) : Except Failure (List Char) × WordSource) = _ ↔ _
      simp only [Prod.mk.injEq, Except.ok.injEq, WordSource.mk.injEq, List.cons.injEq, and_assoc]
      exact and_congr_right fun _ ↦ and_congr_right fun _ ↦ eq_comm

/-- The end of the words is reached where no word is left, and asked for once. -/
theorem finish_eq_ok_iff {excess : Invalid} :
    finish excess source = (.ok (), after) ↔ source.rest = [] ∧ after = ⟨[], source.asked + 1⟩ := by
  obtain ⟨rest, asked⟩ := source
  cases rest with
  | nil =>
      show ((.ok (), ⟨[], asked + 1⟩) : Except Failure Unit × WordSource) = _ ↔ _
      simp [eq_comm]
  | cons word rest => exact ⟨nofun, nofun⟩

/-- What is checked is gone on with. -/
theorem checked_eq_ok_iff {result : Except Invalid α} {value : α} :
    checked result source = (.ok value, after) ↔ result = .ok value ∧ after = source := by
  cases result with
  | error flaw => exact ⟨nofun, nofun⟩
  | ok other =>
      show ((.ok other, source) : Except Failure α × WordSource) = _ ↔ _
      simp [eq_comm]

/-- Reading is careful if it asks for as many words as it takes, and for one more only when it is
refused, which it is for invalid texts only. -/
structure Careful (source : WordSource) (result : Except Failure α × WordSource) : Prop where
  refused : ∀ failure, result.1 = .error failure → ∃ flaw, failure = .refused (.invalid flaw)
  asked_ok : ∀ value, result.1 = .ok value →
    result.2.asked + result.2.rest.length = source.asked + source.rest.length
  asked : result.2.asked + result.2.rest.length ≤ source.asked + source.rest.length + 1

namespace Careful

/-- Reading nothing is careful. -/
theorem pure (value : α) : Careful source ((Pure.pure value : WordReader α) source) :=
  ⟨nofun, fun _ _ ↦ rfl, Nat.le_succ _⟩

/-- Refusing is careful. -/
theorem refuse (flaw : Invalid) : Careful source (refuse (α := α) flaw source) where
  refused failure h := by
    cases h
    exact ⟨flaw, rfl⟩
  asked_ok _ h := nomatch h
  asked := Nat.le_succ _

/-- Taking a word is careful. -/
theorem take (missing : Invalid) : Careful source (take missing source) := by
  obtain ⟨rest, asked⟩ := source
  cases rest with
  | nil =>
      refine ⟨fun failure h ↦ ?_, nofun, Nat.le_refl _⟩
      cases h
      exact ⟨missing, rfl⟩
  | cons word rest =>
      have hsum : asked + 1 + rest.length = asked + (rest.length + 1) := by
        omega
      exact ⟨nofun, fun _ _ ↦ hsum, hsum.le.trans (Nat.le_succ _)⟩

/-- Two careful parts are a careful reading. -/
theorem bind {first : WordReader α} {later : α → WordReader β}
    (hfirst : Careful source (first source))
    (hlater : ∀ value middle, Careful middle (later value middle)) :
    Careful source ((first >>= later) source) := by
  rw [bind_apply]
  rcases hresult : first source with ⟨failure | value, middle⟩
  · rw [hresult] at hfirst
    refine ⟨fun other hother ↦ hfirst.refused other ?_, nofun, hfirst.asked⟩
    cases hother
    rfl
  · rw [hresult] at hfirst
    have hmiddle := hfirst.asked_ok value rfl
    have hrest := hlater value middle
    exact ⟨hrest.refused, fun result h ↦ (hrest.asked_ok result h).trans hmiddle,
      hrest.asked.trans (Nat.add_le_add_right hmiddle.le 1)⟩

end Careful

end WordReader

namespace GainSchedule

open WordReader (bind_apply bind_eq_ok_iff take_eq_ok_iff finish_eq_ok_iff checked_eq_ok_iff
  Careful)

variable {inputs frame input count : Nat} {source after : WordSource} {gains : List Float32}
  {rows : List (List Float32)} {schedule : GainSchedule}

/-- Words that are read as gains, one by one. -/
def Reads (words : List (List Char)) (gains : List Float32) : Prop :=
  List.Forall₂ (fun word gain ↦ Decimal.readSingle? word = some gain) words gains

/-- A row takes one word for each gain. -/
theorem read_row_eq_ok_iff : readRow frame input count source = (.ok gains, after) ↔
    ∃ taken, source.rest = taken ++ after.rest ∧ Reads taken gains ∧ gains.length = count ∧
      after.asked = source.asked + count := by
  induction count generalizing input source gains with
  | zero =>
      constructor
      · intro h
        cases h
        exact ⟨[], rfl, .nil, rfl, rfl⟩
      · rintro ⟨taken, hrest, hreads, hlength, hasked⟩
        cases List.length_eq_zero_iff.mp hlength
        cases hreads
        obtain ⟨rest, asked⟩ := source
        cases hrest
        cases hasked
        rfl
  | succ count ih =>
      unfold readRow
      rw [bind_eq_ok_iff]
      simp only [take_eq_ok_iff]
      constructor
      · rintro ⟨word, middle, ⟨hrest, hasked⟩, hlater⟩
        cases hgain : Decimal.readSingle? word with
        | none =>
            rw [hgain] at hlater
            cases hlater
        | some gain =>
            rw [hgain] at hlater
            obtain ⟨others, _, hothers, hresult⟩ := bind_eq_ok_iff.mp hlater
            cases hresult
            obtain ⟨taken, htaken, hreads, hlength, hcount⟩ := ih.mp hothers
            refine ⟨word :: taken, ?_, .cons hgain hreads, congrArg (· + 1) hlength, by omega⟩
            rw [hrest, htaken]
            rfl
      · rintro ⟨taken, hrest, hreads, hlength, hasked⟩
        cases hreads with
        | nil => cases hlength
        | cons hgain hreads =>
            refine ⟨_, ⟨_, source.asked + 1⟩, ⟨hrest, rfl⟩, ?_⟩
            rw [hgain]
            refine bind_eq_ok_iff.mpr ⟨_, _, ih.mpr ⟨_, rfl, hreads, Nat.succ.inj hlength, ?_⟩, rfl⟩
            dsimp only
            omega

/-- The rows take the words of the first one, then those of the second one, and so on. -/
theorem read_rows_eq_ok_iff : readRows inputs frame count source = (.ok rows, after) ↔
    ∃ taken, source.rest = taken ++ after.rest ∧ Reads taken rows.flatten ∧ rows.length = count ∧
      (∀ row ∈ rows, row.length = inputs) ∧ after.asked = source.asked + count * inputs := by
  induction count generalizing frame source rows with
  | zero =>
      constructor
      · intro h
        cases h
        exact ⟨[], rfl, .nil, rfl, nofun, by rw [Nat.zero_mul]; rfl⟩
      · rintro ⟨taken, hrest, hreads, hlength, _, hasked⟩
        cases List.length_eq_zero_iff.mp hlength
        cases hreads
        obtain ⟨rest, asked⟩ := source
        cases hrest
        rw [Nat.zero_mul] at hasked
        cases hasked
        rfl
  | succ count ih =>
      unfold readRows
      rw [bind_eq_ok_iff]
      simp only [read_row_eq_ok_iff]
      constructor
      · rintro ⟨row, middle, ⟨first, hfirst, hrow, hwidth, hasked⟩, hlater⟩
        obtain ⟨others, _, hothers, hresult⟩ := bind_eq_ok_iff.mp hlater
        cases hresult
        obtain ⟨taken, htaken, hreads, hlength, hwidths, hcount⟩ := ih.mp hothers
        refine ⟨first ++ taken, ?_, List.rel_append hrow hreads, congrArg (· + 1) hlength,
          List.forall_mem_cons.mpr ⟨hwidth, hwidths⟩, ?_⟩
        · rw [hfirst, htaken, List.append_assoc]
        · rw [Nat.succ_mul]
          omega
      · rintro ⟨taken, hrest, hreads, hlength, hwidths, hasked⟩
        cases rows with
        | nil => cases hlength
        | cons row others =>
            obtain ⟨hwidth, hothers⟩ := List.forall_mem_cons.mp hwidths
            rw [List.flatten_cons] at hreads
            have hfirst := List.forall₂_take_append taken row others.flatten hreads
            have hlater := List.forall₂_drop_append taken row others.flatten hreads
            refine ⟨row, ⟨taken.drop row.length ++ after.rest, source.asked + inputs⟩,
              ⟨taken.take row.length, ?_, hfirst, hwidth, rfl⟩, bind_eq_ok_iff.mpr ⟨others, after,
                ih.mpr ⟨taken.drop row.length, rfl, hlater, Nat.succ.inj hlength, hothers, ?_⟩,
                rfl⟩⟩
            · rw [← List.append_assoc, List.take_append_drop, hrest]
            · rw [Nat.succ_mul] at hasked
              dsimp only
              omega

/-- Reading a row is careful. -/
theorem careful_row (frame input count : Nat) (source : WordSource) :
    Careful source (readRow frame input count source) := by
  induction count generalizing input source with
  | zero => exact .pure _
  | succ count ih =>
      refine .bind (.take _) fun word middle ↦ ?_
      cases Decimal.readSingle? word with
      | none => exact .refuse _
      | some gain => exact .bind (ih _ _) fun _ _ ↦ .pure _

/-- Reading rows is careful. -/
theorem careful_rows (inputs frame count : Nat) (source : WordSource) :
    Careful source (readRows inputs frame count source) := by
  induction count generalizing frame source with
  | zero => exact .pure _
  | succ count ih =>
      exact .bind (careful_row _ _ _ _) fun _ _ ↦ .bind (ih _ _) fun _ _ ↦ .pure _

/-- The body of a schedule is read if its words are those of valid rows, as many as declared. -/
theorem read_body_eq_ok_iff : readBody inputs count source = (.ok schedule, after) ↔
    Reads source.rest schedule.rows.flatten ∧ schedule.rows.length = count ∧
      schedule.validate inputs = .ok () ∧
        after = ⟨[], source.asked + count * inputs + 1⟩ := by
  unfold readBody
  rw [bind_eq_ok_iff]
  constructor
  · rintro ⟨rows, middle, hrows, hrest⟩
    obtain ⟨_, last, hfinish, hrest⟩ := bind_eq_ok_iff.mp hrest
    obtain ⟨_, _, hchecked, hresult⟩ := bind_eq_ok_iff.mp hrest
    cases hresult
    obtain ⟨hvalid, rfl⟩ := checked_eq_ok_iff.mp hchecked
    obtain ⟨hend, rfl⟩ := finish_eq_ok_iff.mp hfinish
    obtain ⟨taken, htaken, hreads, hlength, _, hasked⟩ := read_rows_eq_ok_iff.mp hrows
    rw [hend, List.append_nil] at htaken
    exact ⟨htaken ▸ hreads, hlength, hvalid, by rw [hasked]⟩
  · rintro ⟨hreads, hlength, hvalid, rfl⟩
    have hrows : readRows inputs 0 count source
        = (.ok schedule.rows, ⟨[], source.asked + count * inputs⟩) :=
      read_rows_eq_ok_iff.mpr ⟨source.rest, (List.append_nil _).symm, hreads, hlength,
        (validate_eq_ok_iff.mp hvalid).2.1, rfl⟩
    exact ⟨_, _, hrows, bind_eq_ok_iff.mpr ⟨(), _, finish_eq_ok_iff.mpr ⟨rfl, rfl⟩,
      bind_eq_ok_iff.mpr ⟨(), _, checked_eq_ok_iff.mpr ⟨hvalid, rfl⟩, rfl⟩⟩⟩

/-- Reading the body of a schedule asks for at most one word more than there are, and is refused for
invalid texts only. -/
theorem read_body_ends (inputs count : Nat) (source : WordSource) :
    (readBody inputs count source).2.asked ≤ source.asked + source.rest.length + 1 ∧
      ∀ failure, (readBody inputs count source).1 = .error failure →
        ∃ flaw, failure = .refused (.invalid flaw) := by
  have hcareful := careful_rows inputs 0 count source
  unfold readBody
  rw [bind_apply]
  rcases hrows : readRows inputs 0 count source with ⟨failure | rows, rest, asked⟩
  · rw [hrows] at hcareful
    have hasked := hcareful.asked
    dsimp only at hasked ⊢
    refine ⟨by omega, fun other hother ↦ hcareful.refused other ?_⟩
    cases hother
    rfl
  · rw [hrows] at hcareful
    have hasked := hcareful.asked_ok rows rfl
    dsimp only at hasked ⊢
    cases rest with
    | nil =>
        -- The end is asked for, and what follows asks for nothing.
        have hquiet : ∀ result : Except Invalid Unit, ((do
            WordReader.finish .scheduleExcess
            WordReader.checked result
            return ⟨rows⟩ : WordReader GainSchedule) ⟨[], asked⟩).2 = ⟨[], asked + 1⟩ ∧
          ∀ failure, ((do
            WordReader.finish .scheduleExcess
            WordReader.checked result
            return ⟨rows⟩ : WordReader GainSchedule) ⟨[], asked⟩).1 = .error failure →
              ∃ flaw, failure = .refused (.invalid flaw) := by
          rintro (flaw | _)
          · refine ⟨rfl, fun failure hfailure ↦ ⟨flaw, ?_⟩⟩
            cases hfailure
            rfl
          · exact ⟨rfl, nofun⟩
        obtain ⟨hlast, hrefused⟩ := hquiet (validate ⟨rows⟩ inputs)
        rw [hlast]
        exact ⟨by dsimp only; omega, hrefused⟩
    | cons word rest =>
        rw [List.length_cons] at hasked
        refine ⟨show asked + 1 ≤ _ by omega, fun failure hfailure ↦ ⟨.scheduleExcess, ?_⟩⟩
        cases hfailure
        rfl

/-- A schedule starts with a word that is its count. -/
theorem read_cons (first : List Char) (values : List (List Char)) (asked : Nat) :
    read inputs ⟨first :: values, asked⟩ = match Decimal.readCount? first with
      | .error flaw => (.error (.refused (.invalid (.scheduleCount flaw))), ⟨values, asked + 1⟩)
      | .ok count =>
        if count = 0 || Memory.holds inputs GainTable.gainBytes then
          readBody inputs count ⟨values, asked + 1⟩
        else (.error .fault, ⟨values, asked + 1⟩) := by
  unfold read
  rw [bind_apply]
  show (WordReader.checked ((Decimal.readCount? first).mapError .scheduleCount) >>= _) _ = _
  rw [bind_apply]
  cases Decimal.readCount? first with
  | error flaw => rfl
  | ok count =>
      show (if count = 0 || Memory.holds inputs GainTable.gainBytes then readBody inputs count
          else throw .fault : WordReader GainSchedule) ⟨values, asked + 1⟩
        = if count = 0 || Memory.holds inputs GainTable.gainBytes then
            readBody inputs count ⟨values, asked + 1⟩
          else (.error .fault, ⟨values, asked + 1⟩)
      split <;> rfl

/-! ### Texts -/

/-- In rows of one width, the gains of a row stand behind those of all earlier rows. -/
theorem flatten_get {width : Nat} (h : ∀ row ∈ rows, row.length = width) {row column : Nat}
    (hcolumn : column < width) :
    rows.flatten[row * width + column]? = rows[row]?.bind (·[column]?) := by
  induction rows generalizing row with
  | nil => rfl
  | cons first rows ih =>
      obtain ⟨hfirst, hrest⟩ := List.forall_mem_cons.mp h
      rw [List.flatten_cons]
      cases row with
      | zero =>
          rw [Nat.zero_mul, Nat.zero_add, List.getElem?_append_left (by omega)]
          rfl
      | succ row =>
          rw [List.getElem?_append_right (by rw [hfirst, Nat.succ_mul]; omega), hfirst,
            Nat.succ_mul, Nat.add_right_comm, Nat.add_sub_cancel, ih hrest]
          rfl

/-- Rows of one width have as many gains as a table of that width. -/
theorem length_flatten {width : Nat} (h : ∀ row ∈ rows, row.length = width) :
    rows.flatten.length = rows.length * width := by
  induction rows with
  | nil => exact (Nat.zero_mul width).symm
  | cons first rows ih =>
      obtain ⟨hfirst, hrest⟩ := List.forall_mem_cons.mp h
      rw [List.flatten_cons, List.length_append, hfirst, ih hrest, List.length_cons, Nat.succ_mul,
        Nat.add_comm]

/-- Gains that are as many as a table has are the rows of one. -/
theorem exists_rows {width : Nat} (h : gains.length = count * width) :
    ∃ rows : List (List Float32), rows.flatten = gains ∧ rows.length = count ∧
      ∀ row ∈ rows, row.length = width := by
  induction count generalizing gains with
  | zero =>
      rw [Nat.zero_mul] at h
      exact ⟨[], (List.length_eq_zero_iff.mp h).symm, rfl, nofun⟩
  | succ count ih =>
      rw [Nat.succ_mul] at h
      have hdrop : (gains.drop width).length = count * width := by
        rw [List.length_drop]
        omega
      obtain ⟨rows, hflatten, hlength, hwidth⟩ := ih hdrop
      refine ⟨gains.take width :: rows, ?_, congrArg (· + 1) hlength,
        List.forall_mem_cons.mpr ⟨?_, hwidth⟩⟩
      · rw [List.flatten_cons, hflatten, List.take_append_drop]
      · rw [List.length_take]
        omega

/-- The words of a schedule: a count that is not zero, and for each row and source a word that is a
finite positive number, and nothing else. -/
def IsSpelled (inputs : Nat) (words : List (List Char)) : Prop :=
  ∃ first values count, words = first :: values ∧ Decimal.SpellsCount first count ∧ 1 ≤ count ∧
    values.length = count * inputs ∧ ∀ word ∈ values, ∃ gain,
      Decimal.readSingle? word = some gain ∧ gain.isFinite ∧ 0 < gain

/-- A schedule has as many rows as the first word says, and in each row and column the value of the
word that stands there, row by row. -/
structure Follows (schedule : GainSchedule) (inputs : Nat) (words : List (List Char)) : Prop where
  count : ∃ first values, words = first :: values ∧
    Decimal.SpellsCount first schedule.rows.length
  width : ∀ row ∈ schedule.rows, row.length = inputs
  value : ∀ row < schedule.rows.length, ∀ column < inputs, ∃ word gain,
    words[1 + (row * inputs + column)]? = some word ∧ Decimal.readSingle? word = some gain ∧
      schedule.rows[row]?.bind (·[column]?) = some gain

/-- The words declare a row, and no buffer has room for one. -/
def IsTooWide (inputs : Nat) (words : List (List Char)) : Prop :=
  ¬Memory.holds inputs GainTable.gainBytes ∧
    ∃ first values count, words = first :: values ∧ Decimal.SpellsCount first count ∧ 1 ≤ count

/-- A schedule is read from a text exactly if the words of the text spell valid rows, and if buffers
have room for a row. -/
theorem parse_eq_ok_iff {text : String} : parse text inputs = .ok schedule ↔
    Memory.holds inputs GainTable.gainBytes ∧ ∃ first values, Text.words text = first :: values ∧
      Decimal.SpellsCount first schedule.rows.length ∧ Reads values schedule.rows.flatten ∧
        schedule.validate inputs = .ok () := by
  unfold parse
  cases Text.words text with
  | nil => exact ⟨nofun, fun ⟨_, _, _, hwords, _⟩ ↦ nomatch hwords⟩
  | cons first values =>
      rw [read_cons]
      constructor
      · intro h
        cases hcount : Decimal.readCount? first with
        | error flaw =>
            rw [hcount] at h
            cases h
        | ok count =>
            simp only [hcount] at h
            split at h
            · rename_i hroom
              obtain ⟨hreads, rfl, hvalid, _⟩ := read_body_eq_ok_iff.mp (Prod.ext h rfl)
              have hsome : schedule.rows.length ≠ 0 :=
                fun hzero ↦ (validate_eq_ok_iff.mp hvalid).1 (List.length_eq_zero_iff.mp hzero)
              rw [decide_eq_false hsome, Bool.false_or] at hroom
              exact ⟨hroom, first, values, rfl, Decimal.read_count_eq_ok_iff.mp hcount, hreads,
                hvalid⟩
            · cases h
      · rintro ⟨hroom, _, _, hwords, hcount, hreads, hvalid⟩
        cases hwords
        simp only [Decimal.read_count_eq_ok_iff.mpr hcount, hroom, Bool.or_true, if_true]
        rw [read_body_eq_ok_iff.mpr ⟨hreads, rfl, hvalid, rfl⟩]

/-- What cannot be read is refused for an invalid text, unless a row is too wide. -/
theorem parse_eq_error {text : String} {failure : Failure}
    (h : parse text inputs = .error failure) :
    (∃ flaw, failure = .refused (.invalid flaw)) ∨
      failure = .fault ∧ IsTooWide inputs (Text.words text) := by
  unfold parse at h
  cases hwords : Text.words text with
  | nil =>
      rw [hwords] at h
      cases h
      exact .inl ⟨_, rfl⟩
  | cons first values =>
      rw [hwords, read_cons] at h
      cases hcount : Decimal.readCount? first with
      | error flaw =>
          rw [hcount] at h
          cases h
          exact .inl ⟨_, rfl⟩
      | ok count =>
          simp only [hcount] at h
          split at h
          · exact .inl ((read_body_ends inputs count _).2 failure h)
          · rename_i hroom
            cases h
            simp only [Bool.or_eq_true, decide_eq_true_eq, not_or] at hroom
            exact .inr ⟨rfl, hroom.2, first, values, count, rfl,
              Decimal.read_count_eq_ok_iff.mp hcount, Nat.pos_of_ne_zero hroom.1⟩

/-- A row that is declared and too wide breaks a precondition. -/
theorem parse_too_wide {text : String} (h : IsTooWide inputs (Text.words text)) :
    parse text inputs = .error .fault := by
  obtain ⟨hroom, first, values, count, hwords, hcount, hsome⟩ := h
  unfold parse
  rw [hwords, read_cons, Decimal.read_count_eq_ok_iff.mpr hcount]
  dsimp only
  rw [if_neg]
  simp only [Bool.or_eq_true, decide_eq_true_eq, not_or]
  exact ⟨Nat.pos_iff_ne_zero.mp hsome, hroom⟩

/-- Reading a text asks for at most one word more than it has. -/
theorem read_asked (inputs : Nat) (words : List (List Char)) :
    (read inputs ⟨words, 0⟩).2.asked ≤ words.length + 1 := by
  cases words with
  | nil => exact Nat.le_refl 1
  | cons first values =>
      have hfirst : 0 + 1 ≤ (first :: values).length + 1 := by
        omega
      rw [read_cons]
      cases Decimal.readCount? first with
      | error flaw => exact hfirst
      | ok count =>
          dsimp only
          split
          · have hbody := (read_body_ends inputs count ⟨values, 0 + 1⟩).1
            rw [List.length_cons]
            dsimp only at hbody
            omega
          · exact hfirst

/-- Words that spell a schedule are those of valid rows. -/
theorem IsSpelled.exists_schedule {words : List (List Char)} (h : IsSpelled inputs words) :
    ∃ (schedule : GainSchedule) (first : List Char) (values : List (List Char)),
      words = first :: values ∧ Decimal.SpellsCount first schedule.rows.length ∧
        Reads values schedule.rows.flatten ∧ schedule.validate inputs = .ok () := by
  obtain ⟨first, values, count, rfl, hcount, hsome, hlength, hvalues⟩ := h
  obtain ⟨gains, hgains⟩ := Failing.exists_related (R := fun word gain ↦
    Decimal.readSingle? word = some gain ∧ gain.isFinite ∧ 0 < gain) hvalues
  obtain ⟨rows, rfl, rfl, hwidth⟩ := exists_rows (hgains.length_eq.symm.trans hlength)
  refine ⟨⟨rows⟩, first, values, rfl, hcount, hgains.imp fun _ _ ↦ And.left,
    validate_eq_ok_iff.mpr ⟨List.ne_nil_of_length_pos hsome, hwidth, fun row hrow gain hgain ↦ ?_⟩⟩
  obtain ⟨index, hindex⟩ := List.getElem?_of_mem (List.mem_flatten_of_mem hrow hgain)
  obtain ⟨_, _, _, hmultiplier⟩ := Failing.exists_of_forall₂ hgains.flip hindex
  exact hmultiplier

/-- Valid rows are spelled by their words. -/
theorem is_spelled_of_reads {first : List Char} {values : List (List Char)}
    (hcount : Decimal.SpellsCount first schedule.rows.length)
    (hreads : Reads values schedule.rows.flatten) (hvalid : schedule.validate inputs = .ok ()) :
    IsSpelled inputs (first :: values) := by
  obtain ⟨hsome, hwidth, hgains⟩ := validate_eq_ok_iff.mp hvalid
  refine ⟨first, values, schedule.rows.length, rfl, hcount, List.length_pos_iff.mpr hsome, ?_,
    fun word hword ↦ ?_⟩
  · rw [hreads.length_eq, length_flatten hwidth]
  · obtain ⟨index, hindex⟩ := List.getElem?_of_mem hword
    obtain ⟨gain, hgain, hread⟩ := Failing.exists_of_forall₂ hreads hindex
    obtain ⟨row, hrow, hmem⟩ := List.mem_flatten.mp (List.mem_of_getElem? hgain)
    exact ⟨gain, hread, hgains row hrow gain hmem⟩

/-- Rows follow the words that they are read from. -/
theorem follows_of_reads {first : List Char} {values : List (List Char)}
    (hcount : Decimal.SpellsCount first schedule.rows.length)
    (hreads : Reads values schedule.rows.flatten) (hvalid : schedule.validate inputs = .ok ()) :
    schedule.Follows inputs (first :: values) := by
  obtain ⟨_, hwidth, _⟩ := validate_eq_ok_iff.mp hvalid
  refine ⟨⟨first, values, rfl, hcount⟩, hwidth, fun row hrow column hcolumn ↦ ?_⟩
  have hget : schedule.rows.flatten[row * inputs + column]?
      = schedule.rows[row]?.bind (·[column]?) := flatten_get hwidth hcolumn
  have hinside : column < schedule.rows[row].length := by
    rwa [hwidth _ (List.getElem_mem hrow)]
  rw [List.getElem?_eq_getElem hrow, Option.bind_some, List.getElem?_eq_getElem hinside] at hget
  obtain ⟨word, hword, hread⟩ := Failing.exists_of_forall₂ hreads.flip hget
  refine ⟨word, _, ?_, hread, ?_⟩
  · rw [Nat.add_comm, List.getElem?_cons_succ]
    exact hword
  · rw [List.getElem?_eq_getElem hrow, Option.bind_some, List.getElem?_eq_getElem hinside]

/-- Gain schedules are read exactly as they are written. The words of a text are the pieces between
its blanks. If buffers have room for a row, or none is declared, a text is read just if its words
spell a schedule, and every other text is refused as invalid. What is read follows the words, and
has a row for every frame, the last one for those behind. In any case at most one word more is asked
for than there are. -/
theorem parse_exact (text : String) (inputs : Nat) :
    Text.words text = (text.toList.splitOnP Text.isBlank).filter (!·.isEmpty) ∧
      (IsTooWide inputs (Text.words text) → parse text inputs = .error .fault) ∧
      (¬IsTooWide inputs (Text.words text) →
        ((∃ schedule, parse text inputs = .ok schedule) ↔ IsSpelled inputs (Text.words text)) ∧
          ∀ failure, parse text inputs = .error failure →
            ∃ flaw, failure = .refused (.invalid flaw)) ∧
      (∀ schedule, parse text inputs = .ok schedule →
        schedule.Follows inputs (Text.words text) ∧
          ∀ frame, ∃ row, schedule.row? frame = some row ∧
            schedule.rows[min frame (schedule.rows.length - 1)]? = some row) ∧
      (read inputs ⟨Text.words text, 0⟩).2.asked ≤ (Text.words text).length + 1 := by
  refine ⟨Text.words_eq text, parse_too_wide, fun hroom ↦ ⟨⟨?_, fun hspelled ↦ ?_⟩, ?_⟩, ?_,
    read_asked inputs _⟩
  · rintro ⟨schedule, hparse⟩
    obtain ⟨_, first, values, hwords, hcount, hreads, hvalid⟩ := parse_eq_ok_iff.mp hparse
    rw [hwords]
    exact is_spelled_of_reads hcount hreads hvalid
  · obtain ⟨schedule, first, values, hwords, hcount, hreads, hvalid⟩ := hspelled.exists_schedule
    have hsome := List.length_pos_iff.mpr (validate_eq_ok_iff.mp hvalid).1
    have hholds : Memory.holds inputs GainTable.gainBytes := by
      by_contra hfull
      exact hroom ⟨hfull, first, values, _, hwords, hcount, hsome⟩
    exact ⟨schedule, parse_eq_ok_iff.mpr
      ⟨hholds, first, values, hwords, hcount, hreads, hvalid⟩⟩
  · intro failure hparse
    rcases parse_eq_error hparse with hflaw | ⟨_, hwide⟩
    · exact hflaw
    · exact absurd hwide hroom
  · intro schedule hparse
    obtain ⟨_, first, values, hwords, hcount, hreads, hvalid⟩ := parse_eq_ok_iff.mp hparse
    rw [hwords]
    refine ⟨follows_of_reads hcount hreads hvalid, fun frame ↦ ?_⟩
    obtain ⟨row, hrow, _⟩ := exists_row hvalid frame
    exact ⟨row, hrow, hrow⟩

example : parse "2 1 0.5\n3 4 " 2 = .ok ⟨[[1, 0.5], [3, 4]]⟩ := by decide +kernel

/-- A text with one gain spells no schedule for `2 ^ 61` sources. But no buffer has room for a row
of one, so that a precondition is broken before the end of the text is found. -/
theorem parse_breaks : ¬IsSpelled (2 ^ 61) (Text.words "1 1") ∧
    parse "1 1" (2 ^ 61) = .error .fault := by
  have hwords : Text.words "1 1" = [['1'], ['1']] := rfl
  constructor
  · rintro ⟨first, values, count, hsplit, _, _, hlength, _⟩
    rw [hwords] at hsplit
    cases hsplit
    rw [List.length_singleton] at hlength
    omega
  · exact parse_too_wide ⟨by decide, ['1'], [['1']], 1, hwords,
      Decimal.read_count_eq_ok_iff.mp rfl, Nat.le_refl 1⟩

end GainSchedule

end Panorama

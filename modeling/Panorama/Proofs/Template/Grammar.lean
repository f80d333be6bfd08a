import Mathlib
import Panorama.Proofs.Number.Bits
import Panorama.Proofs.Number.LittleEndian
import Panorama.Proofs.Stream
import Panorama.Proofs.Template.Table
import Panorama.Template.Codec

/-!
# The grammar of template files

Which bytes the readers of a template file take for a value. `Reads reader Spells` says that a
reader succeeds on a stream exactly when bytes that spell a value stand in front, and that it
leaves what stands behind them. Each reader has its own lemma, put together by `Reads.bind` the way
the reader is; `reads_header` and `reads_entries` are the two parts of a file.
-/

namespace Panorama

open Number (LittleEndian.encode LittleEndian.decode)
open Number

namespace TemplateReader

variable {α β : Type}

/-- A reader takes the bytes that spell a value from the front of a stream, and nothing else. -/
structure Reads (reader : TemplateReader α) (Spells : α → List UInt8 → Prop) : Prop where
  sound : ∀ {source rest : Source} {value : α}, reader source = .ok (value, rest) →
    ∃ bytes, Spells value bytes ∧ source.bytes = bytes ++ rest.bytes ∧
      rest.failure = source.failure
  complete : ∀ {source : Source} {value : α} {bytes behind : List UInt8}, Spells value bytes →
    source.bytes = bytes ++ behind → ∃ rest, reader source = .ok (value, rest) ∧
      rest.bytes = behind ∧ rest.failure = source.failure

/-- Bytes spell one value and then, depending on it, another one. -/
def Sequence (First : α → List UInt8 → Prop) (Next : α → β → List UInt8 → Prop) (value : β)
    (bytes : List UInt8) : Prop :=
  ∃ first front back, First first front ∧ Next first value back ∧ bytes = front ++ back

/-- A sequence of readers succeeds if both do. -/
theorem bind_eq_ok_iff {first : TemplateReader α} {next : α → TemplateReader β}
    {source rest : Source} {value : β} :
    (first >>= next) source = .ok (value, rest) ↔
      ∃ middle between, first source = .ok (middle, between) ∧
        next middle between = .ok (value, rest) := by
  show (first source >>= fun (middle, between) ↦ next middle between) = _ ↔ _
  cases first source with
  | error failure =>
      constructor
      · intro h
        cases h
      · intro hparts
        obtain ⟨_, _, h, _⟩ := hparts
        cases h
  | ok result =>
      obtain ⟨middle, between⟩ := result
      constructor
      · exact fun h ↦ ⟨middle, between, rfl, h⟩
      · intro hparts
        obtain ⟨_, _, h, hnext⟩ := hparts
        cases h
        exact hnext

namespace Reads

/-- A reader may be described by equivalent spellings. -/
theorem congr {reader : TemplateReader α} {Spells Other : α → List UInt8 → Prop}
    (h : Reads reader Spells) (hiff : ∀ value bytes, Spells value bytes ↔ Other value bytes) :
    Reads reader Other where
  sound hread := by
    obtain ⟨bytes, hspells, hrest⟩ := h.sound hread
    exact ⟨bytes, (hiff _ _).mp hspells, hrest⟩
  complete hspells hbytes := h.complete ((hiff _ _).mpr hspells) hbytes

/-- A value that is known takes no bytes. -/
theorem pure (value : α) : Reads (pure value) fun other bytes ↦ other = value ∧ bytes = [] where
  sound h := by
    cases h
    exact ⟨[], ⟨rfl, rfl⟩, rfl, rfl⟩
  complete := by
    rintro source _ _ behind ⟨rfl, rfl⟩ hbytes
    exact ⟨source, rfl, hbytes, rfl⟩

/-- Two readers one after the other. -/
theorem bind {first : TemplateReader α} {next : α → TemplateReader β}
    {First : α → List UInt8 → Prop} {Next : α → β → List UInt8 → Prop} (hfirst : Reads first First)
    (hnext : ∀ middle, Reads (next middle) (Next middle)) :
    Reads (first >>= next) (Sequence First Next) where
  sound h := by
    obtain ⟨middle, between, hread, hrest⟩ := bind_eq_ok_iff.mp h
    obtain ⟨front, hfront, hsource, hfailure⟩ := hfirst.sound hread
    obtain ⟨back, hback, hbetween, hsame⟩ := (hnext middle).sound hrest
    refine ⟨front ++ back, ⟨middle, front, back, hfront, hback, rfl⟩, ?_, hsame.trans hfailure⟩
    rw [hsource, hbetween, List.append_assoc]
  complete := by
    rintro source value _ behind ⟨middle, front, back, hfront, hback, rfl⟩ hbytes
    rw [List.append_assoc] at hbytes
    obtain ⟨between, hread, hbetween, hfailure⟩ := hfirst.complete hfront hbytes
    obtain ⟨rest, hrest, hbehind, hsame⟩ := (hnext middle).complete hback hbetween
    exact ⟨rest, bind_eq_ok_iff.mpr ⟨middle, between, hread, hrest⟩, hbehind,
      hsame.trans hfailure⟩

/-- A check in front of a reader takes no bytes. -/
theorem guard {condition : Prop} [Decidable condition] {flaw : TemplateFlaw}
    {next : Unit → TemplateReader α} {Next : α → List UInt8 → Prop} (hnext : Reads (next ()) Next) :
    Reads (if condition then refuse flaw >>= next else next ())
      fun value bytes ↦ ¬condition ∧ Next value bytes where
  sound h := by
    split at h
    · cases h
    · rename_i hcondition
      obtain ⟨bytes, hspells, hrest⟩ := hnext.sound h
      exact ⟨bytes, ⟨hcondition, hspells⟩, hrest⟩
  complete hspells hbytes := by
    rw [if_neg hspells.1]
    exact hnext.complete hspells.2 hbytes

/-- A result that needs no stream takes no bytes. -/
theorem lift (result : Result α) :
    Reads (liftM result) fun value bytes ↦ result = .ok value ∧ bytes = [] where
  sound h := by
    cases result with
    | error failure => cases h
    | ok value =>
        cases h
        exact ⟨[], ⟨rfl, rfl⟩, rfl, rfl⟩
  complete := by
    rintro source value _ behind ⟨rfl, rfl⟩ hbytes
    exact ⟨source, rfl, hbytes, rfl⟩

end Reads

/-! ### Words -/

/-- A field of so many bytes is spelled by them. -/
theorem reads_bytes (field : TemplateField) (count : Nat) :
    Reads (bytes field count) fun value bytes ↦ value.length = count ∧ bytes = value where
  sound {source rest value} h := by
    unfold bytes at h
    simp only at h
    split at h
    · rename_i hlength
      cases h
      refine ⟨_, ⟨hlength, rfl⟩, ?_, source.fill_source_failure count⟩
      rw [source.fill_bytes, source.fill_source_bytes, List.take_append_drop]
    · split at h <;> cases h
  complete := by
    rintro source _ value behind ⟨hlength, rfl⟩ hbytes
    have hfilled : (source.fill count).bytes = value := by
      rw [source.fill_bytes, hbytes, List.take_left' hlength]
    refine ⟨(source.fill count).source, ?_, ?_, source.fill_source_failure count⟩
    · simp only [bytes, hfilled, hlength, if_true]
    · rw [source.fill_source_bytes, hbytes, List.drop_left' hlength]

/-- A number is spelled by its little-endian word. -/
theorem reads_word (field : TemplateField) (count : Nat) :
    Reads (word field count) fun value bytes ↦
      value < 256 ^ count ∧ bytes = LittleEndian.encode count value := by
  refine ((reads_bytes field count).bind fun _ ↦ .pure _).congr fun value bytes ↦ ?_
  rw [← LittleEndian.eq_encode_iff]
  constructor
  · intro hparts
    obtain ⟨front, _, _, ⟨hlength, rfl⟩, ⟨rfl, rfl⟩, rfl⟩ := hparts
    rw [List.append_nil]
    exact ⟨hlength, rfl⟩
  · intro hparts
    obtain ⟨hlength, hvalue⟩ := hparts
    exact ⟨bytes, bytes, [], ⟨hlength, rfl⟩, ⟨hvalue.symm, rfl⟩, (List.append_nil _).symm⟩

/-- The two dimensions of a size are spelled by two words. -/
theorem reads_size (width height : TemplateField) :
    Reads (size width height) fun value bytes ↦ bytes = value.encode := by
  refine ((reads_word width 4).bind fun _ ↦ (reads_word height 4).bind fun _ ↦
    .pure _).congr fun value bytes ↦ ?_
  constructor
  · intro hparts
    obtain ⟨columns, _, _, ⟨hcolumns, rfl⟩, ⟨rows, _, _, ⟨hrows, rfl⟩, ⟨rfl, rfl⟩, rfl⟩, rfl⟩ :=
      hparts
    rw [Canvas.encode, UInt32.toNat_ofNat_of_lt' hcolumns, UInt32.toNat_ofNat_of_lt' hrows,
      List.append_nil]
  · rintro rfl
    refine ⟨value.width.toNat, _, _, ⟨value.width.toNat_lt, rfl⟩,
      ⟨value.height.toNat, _, _, ⟨value.height.toNat_lt, rfl⟩, ⟨?_, rfl⟩, rfl⟩, ?_⟩
    · rw [UInt32.ofNat_toNat, UInt32.ofNat_toNat]
    · rw [List.append_nil, Canvas.encode]

/-- A reader taken several times is spelled by its values one after the other. -/
theorem reads_repeated {reader : TemplateReader α} {repeated : Nat → TemplateReader (List α)}
    {Spells : α → List UInt8 → Prop} {SpellsAll : List α → List UInt8 → Prop}
    (hreader : Reads reader Spells) (hzero : repeated 0 = pure [])
    (hsucc : ∀ count, repeated (count + 1) = do
      let first ← reader
      let rest ← repeated count
      return first :: rest)
    (hnil : ∀ bytes, SpellsAll [] bytes ↔ bytes = [])
    (hcons : ∀ first rest bytes, SpellsAll (first :: rest) bytes ↔
      ∃ front back, Spells first front ∧ SpellsAll rest back ∧ bytes = front ++ back)
    (count : Nat) :
    Reads (repeated count) fun values bytes ↦ values.length = count ∧ SpellsAll values bytes := by
  induction count with
  | zero =>
      rw [hzero]
      refine (Reads.pure []).congr fun values bytes ↦ ?_
      rw [List.length_eq_zero_iff]
      constructor
      · rintro ⟨rfl, hbytes⟩
        exact ⟨rfl, (hnil bytes).mpr hbytes⟩
      · rintro ⟨rfl, hbytes⟩
        exact ⟨rfl, (hnil bytes).mp hbytes⟩
  | succ count ih =>
      rw [hsucc]
      refine (hreader.bind fun _ ↦ ih.bind fun _ ↦ .pure _).congr fun values bytes ↦ ?_
      constructor
      · intro hparts
        obtain ⟨first, front, _, hfirst, ⟨rest, back, _, ⟨rfl, hrest⟩, ⟨rfl, rfl⟩, rfl⟩, rfl⟩ :=
          hparts
        exact ⟨rfl, (hcons ..).mpr ⟨front, back, hfirst, hrest, by rw [List.append_nil]⟩⟩
      · intro hparts
        obtain ⟨hlength, hvalues⟩ := hparts
        obtain ⟨first, rest, rfl⟩ := List.exists_cons_of_length_eq_add_one hlength
        obtain ⟨front, back, hfirst, hrest, rfl⟩ := (hcons ..).mp hvalues
        exact ⟨first, front, _, hfirst, ⟨rest, back, _, ⟨Nat.succ.inj hlength, hrest⟩,
          ⟨rfl, rfl⟩, rfl⟩, by rw [List.append_nil]⟩

/-- The sizes of sources are spelled one after the other. -/
theorem reads_inputs (count : Nat) :
    Reads (inputs count) fun value bytes ↦
      value.length = count ∧ bytes = value.flatMap Canvas.encode := by
  refine reads_repeated (reads_size _ _) rfl (fun _ ↦ rfl) (fun _ ↦ Iff.rfl)
    (fun first rest bytes ↦ ?_) count
  rw [List.flatMap_cons]
  constructor
  · rintro rfl
    exact ⟨_, _, rfl, rfl, rfl⟩
  · rintro ⟨_, _, rfl, rfl, rfl⟩
    rfl

/-- A tag is spelled by its byte. -/
theorem reads_tagged (field : TemplateField) (tag : TemplateTag) {meaning : UInt8 → Option α}
    {code : α → UInt8} (hcode : ∀ byte value, meaning byte = some value ↔ byte = code value) :
    Reads (tagged field tag meaning) fun value bytes ↦ bytes = [code value] where
  sound {source rest value} h := by
    obtain ⟨number, between, hword, hrest⟩ := bind_eq_ok_iff.mp h
    obtain ⟨bytes, ⟨hnumber, rfl⟩, hsource, hfailure⟩ := (reads_word field 1).sound hword
    cases hmeaning : meaning (.ofNat number) with
    | none =>
        rw [hmeaning] at hrest
        cases hrest
    | some other =>
        rw [hmeaning] at hrest
        cases hrest
        refine ⟨_, ?_, hsource, hfailure⟩
        rw [← (hcode _ _).mp hmeaning, LittleEndian.encode_one hnumber]
  complete := by
    rintro source value _ behind rfl hbytes
    have hword : (code value).toNat < 256 ^ 1 ∧
        [code value] = LittleEndian.encode 1 (code value).toNat := by
      refine ⟨(code value).toNat_lt, ?_⟩
      rw [LittleEndian.encode_one (code value).toNat_lt, UInt8.ofNat_toNat]
    obtain ⟨rest, hread, hrest⟩ := (reads_word field 1).complete hword hbytes
    refine ⟨rest, bind_eq_ok_iff.mpr ⟨_, rest, hread, ?_⟩, hrest⟩
    rw [UInt8.ofNat_toNat, (hcode _ _).mpr rfl]
    rfl

/-! ### Floats -/

/-- Some bytes are the bits of a double, which need not be those it would be written with. -/
def SpellsDouble (value : Float) (bytes : List UInt8) : Prop :=
  ∃ word : UInt64, value = Float.ofBits word ∧ bytes = LittleEndian.encode 8 word.toNat

/-- Some bytes are the bits of a single. -/
def SpellsSingle (value : Float32) (bytes : List UInt8) : Prop :=
  ∃ word : UInt32, value = Float32.ofBits word ∧ bytes = LittleEndian.encode 4 word.toNat

/-- A finite double is spelled in one way. -/
theorem spells_double_iff {value : Float} {bytes : List UInt8} (hfinite : value.isFinite) :
    SpellsDouble value bytes ↔ bytes = LittleEndian.encode 8 value.toBits.toNat := by
  constructor
  · intro hparts
    obtain ⟨word, rfl, rfl⟩ := hparts
    rw [double_to_bits_of_bits hfinite]
  · rintro rfl
    exact ⟨value.toBits, (double_of_bits_to_bits value).symm, rfl⟩

/-- A finite single is spelled in one way. -/
theorem spells_single_iff {value : Float32} {bytes : List UInt8} (hfinite : value.isFinite) :
    SpellsSingle value bytes ↔ bytes = LittleEndian.encode 4 value.toBits.toNat := by
  constructor
  · intro hparts
    obtain ⟨word, rfl, rfl⟩ := hparts
    rw [single_to_bits_of_bits hfinite]
  · rintro rfl
    exact ⟨value.toBits, (single_of_bits_to_bits value).symm, rfl⟩

/-- What a word stands for is spelled by the words that stand for it. -/
theorem reads_meaning {Word : Type} (field : TemplateField) (count : Nat) (meaning : Word → α)
    {ofNat : Nat → Word} {toNat : Word → Nat} (hlt : ∀ word, toNat word < 256 ^ count)
    (hto : ∀ word, ofNat (toNat word) = word)
    (hof : ∀ number < 256 ^ count, toNat (ofNat number) = number) :
    Reads (do return meaning (ofNat (← word field count))) fun value bytes ↦
      ∃ word, value = meaning word ∧ bytes = LittleEndian.encode count (toNat word) := by
  refine ((reads_word field count).bind fun _ ↦ .pure _).congr fun value bytes ↦ ?_
  constructor
  · intro hparts
    obtain ⟨number, _, _, ⟨hnumber, rfl⟩, ⟨rfl, rfl⟩, rfl⟩ := hparts
    exact ⟨ofNat number, rfl, by rw [hof number hnumber, List.append_nil]⟩
  · intro hparts
    obtain ⟨word, rfl, rfl⟩ := hparts
    exact ⟨toNat word, _, [], ⟨hlt word, rfl⟩, ⟨by rw [hto], rfl⟩, (List.append_nil _).symm⟩

/-- A double is spelled by its bits. -/
theorem reads_double (field : TemplateField) : Reads (double field) SpellsDouble :=
  reads_meaning field 8 Float.ofBits UInt64.toNat_lt (fun _ ↦ UInt64.ofNat_toNat)
    fun _ hnumber ↦ UInt64.toNat_ofNat_of_lt' hnumber

/-- A single is spelled by its bits. -/
theorem reads_single (field : TemplateField) : Reads (single field) SpellsSingle :=
  reads_meaning field 4 Float32.ofBits UInt32.toNat_lt (fun _ ↦ UInt32.ofNat_toNat)
    fun _ hnumber ↦ UInt32.toNat_ofNat_of_lt' hnumber

/-! ### Contributions -/

/-- Some bytes are the fields of a contribution. -/
def SpellsSample (value : Sample) (bytes : List UInt8) : Prop :=
  ∃ x y weight, SpellsSingle value.x x ∧ SpellsSingle value.y y ∧
    SpellsSingle value.weight weight ∧
      bytes = LittleEndian.encode 2 value.source.toNat ++ (x ++ (y ++ weight))

/-- Some bytes are the fields of several contributions, one after the other. -/
def SpellsSamples : List Sample → List UInt8 → Prop
  | [], bytes => bytes = []
  | first :: rest, bytes =>
    ∃ front back, SpellsSample first front ∧ SpellsSamples rest back ∧ bytes = front ++ back

/-- A finite contribution is spelled in one way. -/
theorem spells_sample_iff {value : Sample} {bytes : List UInt8}
    (hfinite : value.x.isFinite ∧ value.y.isFinite ∧ value.weight.isFinite) :
    SpellsSample value bytes ↔ bytes = value.encode := by
  obtain ⟨hx, hy, hweight⟩ := hfinite
  simp only [SpellsSample, spells_single_iff hx, spells_single_iff hy, spells_single_iff hweight,
    exists_and_left, exists_eq_left, Sample.encode, List.flatMap_cons, List.flatMap_nil,
    List.append_nil]

/-- Finite contributions are spelled in one way. -/
theorem spells_samples_iff {values : List Sample} {bytes : List UInt8}
    (hfinite : ∀ value ∈ values, value.x.isFinite ∧ value.y.isFinite ∧ value.weight.isFinite) :
    SpellsSamples values bytes ↔ bytes = values.flatMap Sample.encode := by
  induction values generalizing bytes with
  | nil => rfl
  | cons first rest ih =>
      obtain ⟨hfirst, hrest⟩ := List.forall_mem_cons.mp hfinite
      simp only [SpellsSamples, spells_sample_iff hfirst, ih hrest, exists_and_left,
        exists_eq_left, List.flatMap_cons]

/-- A contribution is spelled by its fields. -/
theorem reads_sample : Reads sample SpellsSample := by
  refine ((reads_word _ 2).bind fun _ ↦ (reads_single _).bind fun _ ↦
    (reads_single _).bind fun _ ↦ (reads_single _).bind fun _ ↦ .pure _).congr
      fun value bytes ↦ ?_
  constructor
  · intro hparts
    obtain ⟨source, _, _, ⟨hsource, rfl⟩, ⟨x, _, _, hx, ⟨y, _, _, hy, ⟨weight, _, _, hweight,
      ⟨rfl, rfl⟩, rfl⟩, rfl⟩, rfl⟩, rfl⟩ := hparts
    refine ⟨_, _, _, hx, hy, hweight, ?_⟩
    rw [UInt16.toNat_ofNat_of_lt' hsource, List.append_nil]
  · intro hparts
    obtain ⟨x, y, weight, hx, hy, hweight, rfl⟩ := hparts
    refine ⟨value.source.toNat, _, _, ⟨value.source.toNat_lt, rfl⟩, ⟨value.x, _, _, hx,
      ⟨value.y, _, _, hy, ⟨value.weight, _, [], hweight, ⟨?_, rfl⟩, rfl⟩, rfl⟩, rfl⟩, ?_⟩
    · rw [UInt16.ofNat_toNat]
    · rw [List.append_nil]

/-- Several contributions are spelled one after the other. -/
theorem reads_samples (count : Nat) :
    Reads (samples count) fun values bytes ↦
      values.length = count ∧ SpellsSamples values bytes :=
  reads_repeated reads_sample rfl (fun _ ↦ rfl) (fun _ ↦ Iff.rfl) (fun _ _ _ ↦ Iff.rfl) count

/-- The contributions of further pixels are spelled list by list, and each list is added. -/
theorem reads_entries (inputs : List Canvas) (count : Nat) (table : SampleTable) :
    Reads (entries inputs count table) fun next bytes ↦ ∃ lists : List (List Sample),
      lists.length = count ∧
        lists.foldlM (fun table entry ↦ table.add inputs entry) table = Except.ok next ∧
          bytes = lists.flatMap Sample.encodeEntry := by
  induction count generalizing table with
  | zero =>
      refine (Reads.pure table).congr fun next bytes ↦ ?_
      constructor
      · intro hparts
        obtain ⟨rfl, rfl⟩ := hparts
        exact ⟨[], rfl, rfl, rfl⟩
      · intro hparts
        obtain ⟨lists, hlength, hadd, rfl⟩ := hparts
        cases List.length_eq_zero_iff.mp hlength
        cases hadd
        exact ⟨rfl, rfl⟩
  | succ count ih =>
      refine ((reads_word _ 1).bind fun _ ↦ (reads_samples _).bind fun entry ↦
        (Reads.lift (table.add inputs entry)).bind fun next ↦ ih next).congr fun next bytes ↦ ?_
      constructor
      · intro hparts
        obtain ⟨_, _, _, ⟨hlength, rfl⟩, ⟨entry, front, _, ⟨rfl, hentry⟩, ⟨middle, _, _, ⟨hadd,
          rfl⟩, ⟨lists, rfl, hrest, rfl⟩, rfl⟩, rfl⟩, rfl⟩ := hparts
        have hflaw := (SampleTable.add_eq_ok_iff.mp hadd).1
        have hfinite := (Sample.sound_of_entry_flaw hflaw).2
        rw [spells_samples_iff fun sample hsample ↦ (hfinite sample hsample).2] at hentry
        refine ⟨entry :: lists, rfl, ?_, ?_⟩
        · rw [List.foldlM_cons, hadd]
          exact hrest
        · rw [hentry, List.flatMap_cons, Sample.encodeEntry, LittleEndian.encode_one hlength]
          rfl
      · intro hparts
        obtain ⟨lists, hlength, hadd, rfl⟩ := hparts
        obtain ⟨entry, rest, rfl⟩ := List.exists_cons_of_length_eq_add_one hlength
        rw [List.foldlM_cons] at hadd
        cases hfirst : table.add inputs entry with
        | error failure =>
            rw [hfirst] at hadd
            cases hadd
        | ok middle =>
            rw [hfirst] at hadd
            have hflaw := (SampleTable.add_eq_ok_iff.mp hfirst).1
            obtain ⟨hshort, hfinite⟩ := Sample.sound_of_entry_flaw hflaw
            have hentry := (spells_samples_iff
              fun sample hsample ↦ (hfinite sample hsample).2).mpr rfl
            refine ⟨entry.length, _, _, ⟨hshort, rfl⟩, ⟨entry, _, _, ⟨rfl, hentry⟩, ⟨middle, [],
              _, ⟨hfirst, rfl⟩, ⟨rest, Nat.succ.inj hlength, hadd, rfl⟩, rfl⟩, rfl⟩, ?_⟩
            rw [List.flatMap_cons, Sample.encodeEntry, LittleEndian.encode_one hshort]
            rfl

/-! ### Headers -/

/-- A byte is the tag of the blend mode that it means. -/
theorem blend_of_tag_iff (byte : UInt8) (mode : BlendMode) :
    BlendMode.ofTag? byte = some mode ↔ byte = mode.tag := by
  cases mode <;> simp only [BlendMode.ofTag?, BlendMode.tag] <;> split <;> simp_all

/-- A byte is the tag of the gain hint that it means. -/
theorem gain_of_tag_iff (byte : UInt8) (hint : GainHint) :
    GainHint.ofTag? byte = some hint ↔ byte = hint.tag := by
  cases hint <;> simp only [GainHint.ofTag?, GainHint.tag] <;> split <;> simp_all

/-- A byte is the tag of the edge mode that it means. -/
theorem edge_of_tag_iff (byte : UInt8) (mode : EdgeMode) :
    EdgeMode.ofTag? byte = some mode ↔ byte = mode.tag := by
  cases mode <;> simp only [EdgeMode.ofTag?, EdgeMode.tag] <;> split <;> simp_all

/-- Some bytes are the fields of a header with a possible number of sources. -/
def SpellsHeader (value : TemplateHeader) (bytes : List UInt8) : Prop :=
  ¬(value.inputs.length = 0 ∨ maxTemplateInputs < value.inputs.length) ∧
    ∃ x y width height, SpellsDouble value.region.x x ∧ SpellsDouble value.region.y y ∧
      SpellsDouble value.region.width width ∧ SpellsDouble value.region.height height ∧
        bytes = templateMagic ++ (LittleEndian.encode 4 templateVersion ++ (value.size.encode ++
          (LittleEndian.encode 4 value.inputs.length ++ (value.inputs.flatMap Canvas.encode ++
            (x ++ (y ++ (width ++ (height ++ [value.blend.tag, value.gain.tag, value.edge.x.tag,
              value.edge.y.tag]))))))))

/-- A header with a finite region is spelled in one way. -/
theorem spells_header_iff {value : TemplateHeader} {bytes : List UInt8}
    (hinputs : ¬(value.inputs.length = 0 ∨ maxTemplateInputs < value.inputs.length))
    (hx : value.region.x.isFinite) (hy : value.region.y.isFinite)
    (hwidth : value.region.width.isFinite) (hheight : value.region.height.isFinite) :
    SpellsHeader value bytes ↔ bytes = value.encode := by
  simp only [SpellsHeader, hinputs, spells_double_iff hx, spells_double_iff hy,
    spells_double_iff hwidth, spells_double_iff hheight, exists_and_left, exists_eq_left,
    TemplateHeader.encode, Region.encode, List.flatMap_cons, List.flatMap_nil, List.append_nil,
    List.append_assoc, not_false_eq_true, true_and]

/-- A header is spelled by its fields. -/
theorem reads_header : Reads header SpellsHeader := by
  refine ((reads_bytes _ 4).bind fun _ ↦ .guard <| (reads_word _ 4).bind fun _ ↦ .guard <|
    (reads_size _ _).bind fun _ ↦ (reads_word _ 4).bind fun _ ↦ .guard <|
    (reads_inputs _).bind fun _ ↦ (reads_double _).bind fun _ ↦ (reads_double _).bind fun _ ↦
    (reads_double _).bind fun _ ↦ (reads_double _).bind fun _ ↦
    (reads_tagged _ _ blend_of_tag_iff).bind fun _ ↦
    (reads_tagged _ _ gain_of_tag_iff).bind fun _ ↦
    (reads_tagged _ _ edge_of_tag_iff).bind fun _ ↦
    (reads_tagged _ _ edge_of_tag_iff).bind fun _ ↦ .pure _).congr fun value bytes ↦ ?_
  constructor
  · intro hparts
    obtain ⟨_, _, _, ⟨-, rfl⟩, ⟨hmagic, ⟨_, _, _, ⟨-, rfl⟩, ⟨hversion, ⟨outputSize, _, _, rfl, ⟨_,
      _, _, ⟨-, rfl⟩, ⟨hcount, ⟨inputSizes, _, _, ⟨rfl, rfl⟩, ⟨x, _, _, hx, ⟨y, _, _, hy, ⟨width,
      _, _, hwidth, ⟨height, _, _, hheight, ⟨blend, _, _, rfl, ⟨gain, _, _, rfl, ⟨horizontal, _,
      _, rfl, ⟨vertical, _, _, rfl, ⟨rfl, rfl⟩, rfl⟩, rfl⟩, rfl⟩, rfl⟩, rfl⟩, rfl⟩, rfl⟩, rfl⟩,
      rfl⟩⟩, rfl⟩, rfl⟩⟩, rfl⟩⟩, rfl⟩ := hparts
    rw [not_not] at hmagic hversion
    refine ⟨hcount, _, _, _, _, hx, hy, hwidth, hheight, ?_⟩
    rw [hmagic, hversion]
    rfl
  · intro hparts
    obtain ⟨hcount, x, y, width, height, hx, hy, hwidth, hheight, rfl⟩ := hparts
    -- The number of sources is written in four bytes, which its limit allows.
    have hshort : value.inputs.length < 256 ^ 4 := by
      have hlimit : maxTemplateInputs < 256 ^ 4 := by decide
      omega
    exact ⟨_, _, _, ⟨rfl, rfl⟩, ⟨not_not.mpr rfl, ⟨_, _, _, ⟨by decide, rfl⟩, ⟨not_not.mpr rfl,
      ⟨value.size, _, _, rfl, ⟨_, _, _, ⟨hshort, rfl⟩, ⟨hcount, ⟨value.inputs, _, _, ⟨rfl, rfl⟩,
      ⟨_, x, _, hx, ⟨_, y, _, hy, ⟨_, width, _, hwidth, ⟨_, height, _, hheight,
      ⟨value.blend, _, _, rfl, ⟨value.gain, _, _, rfl, ⟨value.edge.x, _, _, rfl,
      ⟨value.edge.y, _, _, rfl, ⟨rfl, rfl⟩, rfl⟩, rfl⟩, rfl⟩, rfl⟩, rfl⟩, rfl⟩, rfl⟩, rfl⟩,
      rfl⟩⟩, rfl⟩, rfl⟩⟩, rfl⟩⟩, rfl⟩

/-! ### Files -/

/-- A reader takes a whole stream that spells a value and does not fail, and no other one. -/
def ReadsAll (reader : TemplateReader α) (Spells : α → List UInt8 → Prop) : Prop :=
  ∀ source value, (∃ rest, reader source = .ok (value, rest)) ↔
    Spells value source.bytes ∧ source.failure = none

namespace ReadsAll

/-- A reader in front of one that takes the rest of a stream. -/
theorem bind {first : TemplateReader α} {next : α → TemplateReader β}
    {First : α → List UInt8 → Prop} {Next : α → β → List UInt8 → Prop} (hfirst : Reads first First)
    (hnext : ∀ middle, ReadsAll (next middle) (Next middle)) :
    ReadsAll (first >>= next) (Sequence First Next) := by
  intro source value
  constructor
  · intro hparts
    obtain ⟨rest, hread⟩ := hparts
    obtain ⟨middle, between, hmiddle, hrest⟩ := bind_eq_ok_iff.mp hread
    obtain ⟨front, hfront, hsource, hsame⟩ := hfirst.sound hmiddle
    obtain ⟨hback, hfailure⟩ := (hnext middle between value).mp ⟨rest, hrest⟩
    exact ⟨⟨middle, front, between.bytes, hfront, hback, hsource⟩, hsame.symm.trans hfailure⟩
  · intro hparts
    obtain ⟨⟨middle, front, back, hfront, hback, hbytes⟩, hfailure⟩ := hparts
    obtain ⟨between, hmiddle, hbetween, hsame⟩ := hfirst.complete hfront hbytes
    rw [← hbetween] at hback
    obtain ⟨rest, hrest⟩ := (hnext middle between value).mpr ⟨hback, hsame.trans hfailure⟩
    exact ⟨rest, bind_eq_ok_iff.mpr ⟨middle, between, hmiddle, hrest⟩⟩

/-- A check in front of a reader that takes the rest of a stream. -/
theorem guard {condition : Prop} [Decidable condition] {flaw : TemplateFlaw}
    {next : Unit → TemplateReader α} {Next : α → List UInt8 → Prop}
    (hnext : ReadsAll (next ()) Next) :
    ReadsAll (if condition then refuse flaw >>= next else next ())
      fun value bytes ↦ ¬condition ∧ Next value bytes := by
  intro source value
  by_cases hcondition : condition
  · rw [if_pos hcondition]
    constructor
    · intro hparts
      obtain ⟨rest, hread⟩ := hparts
      cases hread
    · exact fun h ↦ absurd hcondition h.1.1
  · rw [if_neg hcondition, hnext source value, and_assoc]
    exact (and_iff_right hcondition).symm

end ReadsAll

/-- The end of a file is the end of its stream. -/
theorem reads_all_finish (value : α) :
    ReadsAll (finish >>= fun _ ↦ pure value) fun other bytes ↦ other = value ∧ bytes = [] := by
  intro source other
  constructor
  · intro hparts
    obtain ⟨rest, hread⟩ := hparts
    obtain ⟨_, between, hfinish, hrest⟩ := bind_eq_ok_iff.mp hread
    cases hrest
    unfold finish at hfinish
    split at hfinish
    · cases hfinish
    · rename_i hend
      obtain ⟨hbytes, hfailure⟩ := Source.read_ok_nil one_ne_zero hend
      exact ⟨⟨rfl, hbytes⟩, hfailure⟩
    · cases hfinish
  · intro hparts
    obtain ⟨⟨rfl, hbytes⟩, hfailure⟩ := hparts
    obtain ⟨rest, hend, _⟩ := Source.read_of_bytes_nil hbytes hfailure
    exact ⟨rest, bind_eq_ok_iff.mpr ⟨(), rest, by rw [finish, hend], rfl⟩⟩

/-- A file is a valid header, the number of its pixels, and their accepted contributions. -/
theorem reads_all_template :
    ReadsAll template fun value bytes ↦ ∃ (front : List UInt8) (lists : List (List Sample)),
      SpellsHeader value.toTemplateHeader front ∧
        value.toTemplateHeader.validate = .ok () ∧ value.size.area < 256 ^ 8 ∧
          lists.length = value.size.area ∧
            lists.foldlM (fun table entry ↦ table.add value.inputs entry) SampleTable.empty
              = Except.ok value.table ∧
                bytes = front ++ (LittleEndian.encode 8 value.size.area ++
                  lists.flatMap Sample.encodeEntry) := by
  intro source value
  rw [show ReadsAll template _ from .bind reads_header fun header ↦
    .bind (.lift header.validate) fun _ ↦ .bind (reads_word _ 8) fun _ ↦ .guard <|
      .bind (reads_entries _ _ _) fun _ ↦ reads_all_finish _]
  refine and_congr_left fun _ ↦ ?_
  constructor
  · intro hparts
    obtain ⟨header, front, _, hheader, ⟨_, _, _, ⟨hvalid, rfl⟩, ⟨_, _, _, ⟨hshort, rfl⟩, ⟨hcount,
      ⟨table, _, _, ⟨lists, rfl, htable, rfl⟩, ⟨rfl, rfl⟩, rfl⟩⟩, rfl⟩, rfl⟩, hbytes⟩ := hparts
    rw [not_not] at hcount
    refine ⟨front, lists, hheader, hvalid, hcount ▸ hshort, hcount, htable, ?_⟩
    rw [hbytes, hcount, List.append_nil, List.nil_append]
  · intro hparts
    obtain ⟨front, lists, hheader, hvalid, hshort, hcount, htable, hbytes⟩ := hparts
    refine ⟨_, front, _, hheader, ⟨(), [], _, ⟨hvalid, rfl⟩, ⟨_, _, _, ⟨hshort, rfl⟩,
      ⟨not_not.mpr rfl, ⟨value.table, _, [], ⟨lists, hcount, htable, rfl⟩, ⟨rfl, rfl⟩, rfl⟩⟩,
        rfl⟩, rfl⟩, ?_⟩
    rw [hbytes, List.append_nil, List.nil_append]

end TemplateReader

end Panorama

import Courier.Proofs.Entity.MediaType
import Courier.Proofs.Json.Fields
import Courier.Proofs.Json.Integers
import Courier.Proofs.Json.Texts
import Courier.Proofs.Text.Utf8

/-!
# Values read back from JSON

A value without fractions (`Json.Plain`) is read back from what is written for it. Wherever a value
may stand, its characters are read as it, given more fuel than there are characters (`Json.Reads`,
`Json.Plain.reads`) : by induction on the value, since every item and every field is written with
fewer characters than the array or object that it is in. What follows a value is a comma, a closing
bracket or nothing, and none of these continues a numeral (`Json.Document.Ends`).

The bytes of a value's datum are those characters (`Datum.writeJson_ofJson`), under every content
type that names the media type of JSON (`Codec.json_round_trip`).
-/

namespace Courier

namespace Json

open Utf8 (Symbol)

/-! ## Values -/

/-- A value without fractions : it is built from null, truth values, integers of 64 bits, texts,
arrays and objects, which are nested at most `depth` deep. -/
inductive Plain : Nat → Json → Prop
  | null (depth : Nat) : Plain depth .null
  | boolean (depth : Nat) (b : Bool) : Plain depth (.boolean b)
  | integer (depth : Nat) {n : Int} (h : IsWord n) : Plain depth (.number (.integer n))
  | string (depth : Nat) (s : String) : Plain depth (.string s)
  | array {depth : Nat} {items : List Json} (h : ∀ v ∈ items, Plain depth v) :
      Plain (depth + 1) (.array items)
  | object {depth : Nat} {fields : List (String × Json)}
      (hordered : Ordered fields) (h : ∀ f ∈ fields, Plain depth f.2) :
      Plain (depth + 1) (.object fields)

namespace Document

variable {rest : List Symbol} {fuel : Nat}

theorem skip_cons {c : Char} (h : isBlank (some c) = false) :
    skip (some c :: rest) = some c :: rest :=
  List.dropWhile_cons_of_neg (by simp [h])

/-- A sign or digit is neither a blank nor a bracket, nor does a word begin with it. -/
theorem ne_of_numeral {c d : Char} (h : c = '-' ∨ Ascii.isDigit c) (hminus : d ≠ '-')
    (hdigit : Ascii.isDigit d = false) : c ≠ d := by
  rintro rfl
  rcases h with h | h
  · exact hminus h
  · simp [hdigit] at h

theorem isBlank_of_numeral {c : Char} (h : c = '-' ∨ Ascii.isDigit c) :
    isBlank (some c) = false := by
  simp only [isBlank, Option.some.injEq, decide_eq_false_iff_not, not_or]
  exact ⟨ne_of_numeral h (by decide) (by decide), ne_of_numeral h (by decide) (by decide),
    ne_of_numeral h (by decide) (by decide), ne_of_numeral h (by decide) (by decide)⟩

/-- What begins as a numeral is read as one. -/
theorem value_numeral {c : Char} (h : c = '-' ∨ Ascii.isDigit c) :
    value (fuel + 1) (some c :: rest) =
      (numeral (some c :: rest)).map fun (n, rest) => (.number n, rest) := by
  have hliteral {d : Char} {cs cs' : List Symbol} (hminus : d ≠ '-')
      (hdigit : Ascii.isDigit d = false) : some c :: cs ≠ some d :: cs' := fun heq =>
    ne_of_numeral h hminus hdigit (Option.some.inj (List.cons.inj heq).1)
  rw [value, skip_cons (isBlank_of_numeral h)]
  split
  iterate 6 next heq => exact absurd heq (hliteral (by decide) (by decide))
  rfl

theorem value_integer (n : Int) (hrest : Ends rest) :
    value (fuel + 1) ((toString n).toList.map some ++ rest) = some (.number (.ofInt n), rest) := by
  have hnumeral := numeral_write n hrest
  obtain ⟨c, tail, hchars, hc⟩ := exists_cons_toString n
  rw [hchars, List.map_cons, List.cons_append] at hnumeral ⊢
  rw [value_numeral hc, hnumeral]
  rfl

theorem writeText_append (s : String) : (writeText s).map some ++ rest =
    some '"' :: ((s.toList.flatMap escaped).map some ++ some '"' :: rest) := by
  simp [writeText]

theorem value_string (s : String) :
    value (fuel + 1) ((writeText s).map some ++ rest) = some (.string (some s), rest) := by
  rw [writeText_append, value, skip_cons (by decide)]
  simp only [text_writeText]
  rfl

theorem value_array {c : Char} (hblank : isBlank (some c) = false) (hbracket : c ≠ ']') :
    value (fuel + 1) (some '[' :: some c :: rest) =
      (items fuel (some c :: rest)).map fun (docs, rest) => (.array docs, rest) := by
  rw [value, skip_cons (by decide)]
  simp [skip_cons hblank, hbracket]

theorem value_object : value (fuel + 1) (some '\x7b' :: some '"' :: rest) =
    (fields fuel (some '"' :: rest)).map fun (docs, rest) => (.object docs, rest) :=
  rfl

/-- A document that nothing follows is the whole text. -/
theorem parse?_of_value {cs : List Char} {doc : Document}
    (h : value (cs.length + 1) (cs.map some ++ []) = some (doc, [])) :
    parse? (cs.map some) = some doc := by
  rw [List.append_nil] at h
  rw [parse?, List.length_map, h]
  rfl

theorem items_last {cs : List Symbol} {doc : Document}
    (h : value fuel cs = some (doc, some ']' :: rest)) :
    items (fuel + 1) cs = some ([doc], rest) := by
  rw [items, h]
  rfl

theorem items_cons {cs : List Symbol} {doc : Document}
    (h : value fuel cs = some (doc, some ',' :: rest)) :
    items (fuel + 1) cs = (items fuel rest).map fun (docs, rest) => (doc :: docs, rest) := by
  rw [items, h]
  rfl

theorem fields_last {k : String} {cs : List Symbol} {doc : Document}
    (h : value fuel cs = some (doc, some '\x7d' :: rest)) :
    fields (fuel + 1) ((writeText k).map some ++ some ':' :: cs) =
      some ([(some k, doc)], rest) := by
  rw [writeText_append, fields, skip_cons (by decide)]
  simp only [text_writeText]
  rw [skip_cons (by decide)]
  simp only [h]
  rfl

theorem fields_cons {k : String} {cs : List Symbol} {doc : Document}
    (h : value fuel cs = some (doc, some ',' :: rest)) :
    fields (fuel + 1) ((writeText k).map some ++ some ':' :: cs) =
      (fields fuel rest).map fun (docs, rest) => ((some k, doc) :: docs, rest) := by
  rw [writeText_append, fields, skip_cons (by decide)]
  simp only [text_writeText]
  rw [skip_cons (by decide)]
  simp only [h]
  rfl

end Document

/-! ## What is read as a value -/

/-- Characters that are read as a value wherever a value may stand. -/
structure Reads (depth : Nat) (cs : List Char) (v : Json) : Prop where
  begins : ∃ c tail, cs = c :: tail ∧ Document.isBlank (some c) = false ∧ c ≠ ']'
  reads : ∃ doc : Document, doc.value? depth = some v ∧
    ∀ (rest : List Symbol) (fuel : Nat), Document.Ends rest → cs.length < fuel →
      Document.value fuel (cs.map some ++ rest) = some (doc, rest)

/-- Reading takes one step of fuel for the first character, and the rest for what is inside. -/
theorem Reads.of_value {depth : Nat} {cs : List Char} {v : Json} {c : Char} {tail : List Char}
    (doc : Document) (hcs : cs = c :: tail) (hblank : Document.isBlank (some c) = false)
    (hbracket : c ≠ ']') (hdoc : doc.value? depth = some v)
    (h : ∀ (rest : List Symbol) (fuel : Nat), Document.Ends rest → tail.length < fuel →
      Document.value (fuel + 1) (cs.map some ++ rest) = some (doc, rest)) : Reads depth cs v := by
  refine ⟨⟨c, tail, hcs, hblank, hbracket⟩, doc, hdoc, fun rest fuel hrest hfuel => ?_⟩
  obtain ⟨more, rfl⟩ := Nat.exists_eq_add_of_lt hfuel
  exact h rest _ hrest (by simp only [hcs, List.length_cons]; omega)

theorem reads_null (depth : Nat) : Reads depth (write .null) .null :=
  .of_value .null rfl (by decide) (by decide) rfl fun _ _ _ _ => rfl

theorem reads_boolean (depth : Nat) (b : Bool) : Reads depth (write (.boolean b)) (.boolean b) := by
  cases b with
  | false => exact .of_value (.boolean false) rfl (by decide) (by decide) rfl fun _ _ _ _ => rfl
  | true => exact .of_value (.boolean true) rfl (by decide) (by decide) rfl fun _ _ _ _ => rfl

theorem reads_string (depth : Nat) (s : String) : Reads depth (write (.string s)) (.string s) :=
  .of_value (.string (some s)) rfl (by decide) (by decide) rfl
    fun _ _ _ _ => Document.value_string s

theorem reads_integer (depth : Nat) {n : Int} (h : IsWord n) :
    Reads depth (write (.number (.integer n))) (.number (.integer n)) := by
  obtain ⟨c, tail, hwrite, hc⟩ := exists_cons_toString n
  refine .of_value (.number (.ofInt n)) hwrite (Document.isBlank_of_numeral hc)
    (Document.ne_of_numeral hc (by decide) (by decide)) ?_
    fun rest fuel hrest _ => Document.value_integer n hrest
  simp [Document.value?, Numeral.value?_ofInt h]

theorem ends_cons {c : Char} {rest : List Symbol} (hdigit : Ascii.isDigit c = false)
    (hpoint : c ≠ '.') (hsmall : c ≠ 'e') (hcapital : c ≠ 'E') :
    Document.Ends (some c :: rest) := by
  rintro _ ⟨⟩
  simp [Document.isDigit, hdigit, hpoint, hsmall, hcapital]

theorem ends_comma (rest : List Symbol) : Document.Ends (some ',' :: rest) :=
  ends_cons (by decide) (by decide) (by decide) (by decide)

theorem ends_bracket (rest : List Symbol) : Document.Ends (some ']' :: rest) :=
  ends_cons (by decide) (by decide) (by decide) (by decide)

theorem ends_brace (rest : List Symbol) : Document.Ends (some '\x7d' :: rest) :=
  ends_cons (by decide) (by decide) (by decide) (by decide)

/-- Values with commas between them are read as the items of an array. -/
theorem exists_items {depth : Nat} {v : Json} {vs : List Json}
    (h : ∀ w ∈ v :: vs, Reads depth (write w) w) :
    ∃ docs, Document.values? depth docs = some (v :: vs) ∧
      ∀ (rest : List Symbol) (fuel : Nat), (write v ++ writeItems vs).length + 1 < fuel →
        Document.items fuel ((write v ++ writeItems vs).map some ++ some ']' :: rest) =
          some (docs, rest) := by
  -- One step of fuel is for the first item. What is left is more than the item is long, and more
  -- than all that comes after its comma.
  induction vs generalizing v with
  | nil =>
    obtain ⟨doc, hdoc, hvalue⟩ := (h v (by simp)).reads
    refine ⟨[doc], by simp [Document.values?, hdoc], fun rest fuel hfuel => ?_⟩
    obtain ⟨more, rfl⟩ := Nat.exists_eq_add_of_lt hfuel
    rw [writeItems, List.append_nil]
    exact Document.items_last (hvalue _ _ (ends_bracket rest) (by omega))
  | cons w vs ih =>
    obtain ⟨doc, hdoc, hvalue⟩ := (h v (by simp)).reads
    obtain ⟨docs, hdocs, hitems⟩ := ih fun w' hw' => h w' (List.mem_cons_of_mem v hw')
    refine ⟨doc :: docs, by simp [Document.values?, hdoc, hdocs], fun rest fuel hfuel => ?_⟩
    obtain ⟨more, rfl⟩ := Nat.exists_eq_add_of_lt hfuel
    have hsplit : (write v ++ writeItems (w :: vs)).map some ++ some ']' :: rest =
        (write v).map some ++ some ',' :: ((write w ++ writeItems vs).map some ++
          some ']' :: rest) := by
      simp [writeItems]
    have hlength : (write v ++ writeItems (w :: vs)).length =
        (write v).length + (write w ++ writeItems vs).length + 1 := by
      simp [writeItems, Nat.add_assoc]
    rw [hsplit, Document.items_cons (hvalue _ _ (ends_comma _) (by omega)),
      hitems rest _ (by omega)]
    rfl

/-- Named values with commas between them are read as the fields of an object. -/
theorem exists_fields {depth : Nat} {f : String × Json} {fs : List (String × Json)}
    (h : ∀ g ∈ f :: fs, Reads depth (write g.2) g.2) :
    ∃ docs, Document.fieldValues? depth docs = some (f :: fs) ∧
      ∀ (rest : List Symbol) (fuel : Nat),
        (writeText f.1 ++ ':' :: write f.2 ++ writeFields fs).length + 1 < fuel →
        Document.fields fuel ((writeText f.1 ++ ':' :: write f.2 ++ writeFields fs).map some ++
          some '\x7d' :: rest) = some (docs, rest) := by
  induction fs generalizing f with
  | nil =>
    obtain ⟨doc, hdoc, hvalue⟩ := (h f (by simp)).reads
    refine ⟨[(some f.1, doc)], by simp [Document.fieldValues?, hdoc], fun rest fuel hfuel => ?_⟩
    obtain ⟨more, rfl⟩ := Nat.exists_eq_add_of_lt hfuel
    have hsplit : (writeText f.1 ++ ':' :: write f.2 ++ writeFields []).map some ++
        some '\x7d' :: rest = (writeText f.1).map some ++
          some ':' :: ((write f.2).map some ++ some '\x7d' :: rest) := by
      simp [writeFields]
    have hlength : (write f.2).length <
        (writeText f.1 ++ ':' :: write f.2 ++ writeFields []).length := by
      simp [writeFields]
      omega
    rw [hsplit]
    exact Document.fields_last (hvalue _ _ (ends_brace rest) (by omega))
  | cons g fs ih =>
    obtain ⟨doc, hdoc, hvalue⟩ := (h f (by simp)).reads
    obtain ⟨docs, hdocs, hfields⟩ := ih fun g' hg' => h g' (List.mem_cons_of_mem f hg')
    refine ⟨(some f.1, doc) :: docs, by simp [Document.fieldValues?, hdoc, hdocs],
      fun rest fuel hfuel => ?_⟩
    obtain ⟨more, rfl⟩ := Nat.exists_eq_add_of_lt hfuel
    have hsplit : (writeText f.1 ++ ':' :: write f.2 ++ writeFields (g :: fs)).map some ++
        some '\x7d' :: rest =
          (writeText f.1).map some ++ some ':' :: ((write f.2).map some ++ some ',' ::
            ((writeText g.1 ++ ':' :: write g.2 ++ writeFields fs).map some ++
              some '\x7d' :: rest)) := by
      simp [writeFields]
    have hlength : (writeText f.1 ++ ':' :: write f.2 ++ writeFields (g :: fs)).length =
        (writeText f.1).length + (write f.2).length + 2 +
          (writeText g.1 ++ ':' :: write g.2 ++ writeFields fs).length := by
      simp [writeFields]
      omega
    rw [hsplit, Document.fields_cons (hvalue _ _ (ends_comma _) (by omega)),
      hfields rest _ (by omega)]
    rfl

theorem reads_array {depth : Nat} {vs : List Json} (h : ∀ w ∈ vs, Reads depth (write w) w) :
    Reads (depth + 1) (write (.array vs)) (.array vs) := by
  cases vs with
  | nil => exact .of_value (.array []) rfl (by decide) (by decide) rfl fun _ _ _ _ => rfl
  | cons v vs =>
    obtain ⟨docs, hdocs, hitems⟩ := exists_items h
    obtain ⟨⟨c, tail, hwrite, hblank, hbracket⟩, -⟩ := h v (by simp)
    have hbegins : write (.array (v :: vs)) = '[' :: (write v ++ writeItems vs ++ [']']) := by
      simp [write]
    refine .of_value (.array docs) hbegins (by decide) (by decide)
      (by simp [Document.value?, hdocs]) fun rest fuel _ hfuel => ?_
    have hitems := hitems rest fuel (by rwa [List.length_append] at hfuel)
    have hsplit : (write (.array (v :: vs))).map some ++ rest =
        some '[' :: ((write v ++ writeItems vs).map some ++ some ']' :: rest) := by
      simp [write]
    rw [hsplit]
    rw [hwrite, List.cons_append, List.map_cons, List.cons_append] at hitems ⊢
    rw [Document.value_array hblank hbracket, hitems]
    rfl

theorem reads_object {depth : Nat} {fs : List (String × Json)} (hordered : Ordered fs)
    (h : ∀ f ∈ fs, Reads depth (write f.2) f.2) :
    Reads (depth + 1) (write (.object fs)) (.object fs) := by
  cases fs with
  | nil => exact .of_value (.object []) rfl (by decide) (by decide) rfl fun _ _ _ _ => rfl
  | cons f fs =>
    obtain ⟨docs, hdocs, hfields⟩ := exists_fields h
    have hbegins : write (.object (f :: fs)) =
        '\x7b' :: (writeText f.1 ++ ':' :: write f.2 ++ writeFields fs ++ ['\x7d']) := by
      simp [write]
    refine .of_value (.object docs) hbegins (by decide) (by decide)
      (by simp [Document.value?, hdocs, hordered.ofFields_eq]) fun rest fuel _ hfuel => ?_
    have hfields := hfields rest fuel (by rwa [List.length_append] at hfuel)
    have hsplit : (write (.object (f :: fs))).map some ++ rest =
        some '\x7b' :: ((writeText f.1 ++ ':' :: write f.2 ++ writeFields fs).map some ++
          some '\x7d' :: rest) := by
      simp [write]
    rw [hsplit]
    simp only [writeText, List.cons_append, List.map_cons] at hfields ⊢
    rw [Document.value_object, hfields]
    rfl

/-- What is written for a value is read as the value, wherever it stands. -/
theorem Plain.reads {depth : Nat} {v : Json} (h : Plain depth v) : Reads depth (write v) v := by
  induction h with
  | null depth => exact reads_null depth
  | boolean depth b => exact reads_boolean depth b
  | integer depth hn => exact reads_integer depth hn
  | string depth s => exact reads_string depth s
  | array _ ih => exact reads_array ih
  | object hordered _ ih => exact reads_object hordered ih

/-- What is written for a value is the whole text of a document with that value. -/
theorem Plain.exists_document {depth : Nat} {v : Json} (h : Plain depth v) :
    ∃ doc, Document.parse? ((write v).map some) = some doc ∧ doc.value? depth = some v := by
  obtain ⟨doc, hdoc, hvalue⟩ := h.reads.reads
  exact ⟨doc, Document.parse?_of_value (hvalue [] _ Document.ends_nil (Nat.lt_succ_self _)), hdoc⟩

end Json

/-! ## Data -/

namespace Datum

mutual

/-- The text of the datum of a value is the text of the value. -/
theorem writeJson_ofJson : ∀ v : Json, (ofJson v).writeJson = .ok (Json.write v)
  | .null => rfl
  | .boolean _ => rfl
  | .number (.integer _) => rfl
  | .number (.real _) => rfl
  | .string _ => rfl
  | .array [] => rfl
  | .array (v :: vs) => by
    rw [ofJson, writeJson, writeItems_ofItems v vs]
    simp [Except.map, Json.write]
  | .object [] => rfl
  | .object (f :: fs) => by
    rw [ofJson, writeJson, writeEntries_ofFields f fs]
    simp [Except.map, Json.write]
termination_by v => sizeOf v

theorem writeItems_ofItems : ∀ (v : Json) (vs : List Json),
    writeItems (ofJson.ofItems (v :: vs)) = .ok (Json.write v ++ Json.writeItems vs)
  | v, [] => by
    rw [ofJson.ofItems, ofJson.ofItems, writeItems, writeJson_ofJson v, Json.writeItems,
      List.append_nil]
  | v, w :: vs => by
    have hrest := writeItems_ofItems w vs
    rw [ofJson.ofItems] at hrest
    rw [ofJson.ofItems, ofJson.ofItems, writeItems, writeJson_ofJson v, hrest]
    rfl
termination_by v vs => sizeOf (v :: vs)

theorem writeEntries_ofFields : ∀ (f : String × Json) (fs : List (String × Json)),
    writeEntries (ofJson.ofFields (f :: fs)) =
      .ok (Json.writeText f.1 ++ ':' :: Json.write f.2 ++ Json.writeFields fs)
  | (k, v), [] => by
    rw [ofJson.ofFields, ofJson.ofFields, writeEntries, writeJson_ofJson v]
    simp [writeEntry, keyText, Except.map, Json.writeFields]
  | (k, v), (l, w) :: fs => by
    have hrest := writeEntries_ofFields (l, w) fs
    rw [ofJson.ofFields] at hrest
    rw [ofJson.ofFields, ofJson.ofFields, writeEntries, writeJson_ofJson v]
    simp [writeEntry, keyText, hrest, Except.map, Json.writeFields]
termination_by f fs => sizeOf (f :: fs)

end

end Datum

/-! ## Bodies -/

/-- A value without fractions, nested no deeper than documents are read, is written as JSON under
every content type that names it, and under every other one the bytes are read as the value. -/
theorem Codec.json_round_trip {contentType other : String} {v : Json}
    (hname : MediaType.Names contentType MediaType.json)
    (hother : MediaType.Names other MediaType.json) (hv : v.Plain 127) :
    ∃ data, encode contentType (.ofJson v) = .ok data ∧ decode other .any data = .ok v := by
  have hkind : kind? contentType = some .json := kind?_eq_some_iff.2 hname
  have hkind' : kind? other = some .json := kind?_eq_some_iff.2 hother
  obtain ⟨doc, hdoc, hvalue⟩ := hv.exists_document
  have hencode : encode contentType (.ofJson v) =
      .ok (Utf8.encode (String.ofList (Json.write v))) := by
    rw [encode, hkind]
    dsimp only
    rw [Datum.writeJson_ofJson]
    rfl
  have hread : Shape.any.ofJson? ((Json.write v).map some) = some v := by
    rw [Shape.ofJson?, hdoc]
    exact hvalue
  refine ⟨_, hencode, ?_⟩
  simp [decode, hkind', Utf8.symbols_encode, hread]

/-- An object with an empty key, a text with escapes and the ends of the range of integers. -/
theorem Codec.json_round_trip_object :
    let v : Json := .object [("", .array [.number (.integer (-9223372036854775808)), .null]),
      ("\n", .string "\"\\\x00é")]
    ∃ data, encode " Application/JSON ; charset=utf-8" (.ofJson v) = .ok data ∧
      decode "application/json" .any data = .ok v := by
  intro v
  have hitems : Json.Plain 126 (.array [.number (.integer (-9223372036854775808)), .null]) :=
    .array (by simpa using ⟨.integer 125 (by decide), .null 125⟩)
  have hv : v.Plain 127 :=
    .object (by decide) (by simpa using ⟨hitems, .string 126 _⟩)
  exact json_round_trip
    (kind?_eq_some_iff.1 (show kind? " Application/JSON ; charset=utf-8" = some .json by decide))
    (kind?_eq_some_iff.1 (show kind? "application/json" = some .json by decide)) hv

end Courier

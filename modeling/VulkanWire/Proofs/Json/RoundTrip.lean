import Mathlib.Data.List.TakeDrop
import VulkanWire.Json.Reader
import VulkanWire.Json.Writer
import VulkanWire.Proofs.Json.Tidy

/-!
# Reading back what was written

The reader gives back any tidy document that it finds written at the front of a
text, as long as the text goes on with nothing that could belong to a number.
Every step of the reader uses up a character of what was written, so its length
is enough fuel.

## Main definitions

* `Json.Stops` — what can follow a document.
* `Json.ReadsBack` — the reader gives a document back.

## Main results

* `Json.readString_flatMap_escape`, `Json.readNumber_writeNumber` — tokens.
* `Json.readValue_write` — documents at the front of a text.
* `Json.parse?_render` — documents that fill a text.
-/

namespace VulkanWire.Json

/-! ## Strings -/

section Strings

variable {done rest : List Char} {whole : Bool}

theorem readString_short {c e : Char} (h : shortEscape? e = some c) :
    readString done whole ('\\' :: e :: rest) = readString (c :: done) whole rest := by
  have hu : e ≠ 'u' := by
    rintro rfl
    cases h
  rw [readString.eq_4 _ _ _ _ (fun _ _ _ _ _ _ _ _ _ heq => absurd heq hu)
    (fun _ _ _ _ _ heq => absurd heq hu), h]

/-- An escaped code unit that is no half of a pair stands for itself, whatever follows it. -/
theorem readString_unicode {a b c d : Char} {unit : Nat} (h : hex4? a b c d = some unit)
    (hhigh : isHighSurrogate unit = false) (hlow : isLowSurrogate unit = false) :
    readString done whole ('\\' :: 'u' :: a :: b :: c :: d :: rest) =
      readString (Char.ofNat unit :: done) whole rest := by
  -- The reader looks ahead for the other half of a pair.
  by_cases hnext : ∃ e f g i tail, rest = '\\' :: 'u' :: e :: f :: g :: i :: tail
  · obtain ⟨e, f, g, i, tail, rfl⟩ := hnext
    rw [readString.eq_2, h]
    simp only [hhigh, hlow, Bool.false_eq_true, if_false]
  · rw [readString.eq_3 _ _ _ _ _ _ _ (fun e f g i tail heq => hnext ⟨e, f, g, i, tail, heq⟩), h]
    simp only [hhigh, hlow, Bool.false_eq_true, or_self, if_false]

theorem readString_plain {c : Char} (hquote : c ≠ '"') (hslash : c ≠ '\\') (hspace : ¬ c < ' ') :
    readString done whole (c :: rest) = readString (c :: done) whole rest := by
  rw [readString.eq_5 _ _ _ _ hquote (fun _ _ _ _ _ _ _ _ _ heq => absurd heq hslash)
    (fun _ _ _ _ _ heq => absurd heq hslash) (fun _ _ heq => absurd heq hslash), if_neg hspace]

/-- The two digits of a control character. -/
theorem hex4?_hexDigit :
    ∀ n < 32, hex4? '0' '0' (hexDigit (n / 16)) (hexDigit (n % 16)) = some n := by
  decide

/-- The characters that are escaped by a letter, with the letter. -/
def escapeLetters : List (Char × Char) :=
  [('"', '"'), ('\\', '\\'), ('\n', 'n'), ('\r', 'r'), ('\t', 't'), ('\x08', 'b'), ('\x0c', 'f')]

theorem escape_of_letter {c e : Char} (h : (c, e) ∈ escapeLetters) :
    shortEscape? e = some c ∧ escape c = ['\\', e] := by
  have hall : escapeLetters.all fun p =>
      shortEscape? p.2 = some p.1 ∧ escape p.1 = ['\\', p.2] := by
    decide
  simpa using List.all_eq_true.mp hall (c, e) h

/-- A character is escaped by a letter, as a code unit, or not at all. -/
theorem escape_cases (c : Char) :
    (∃ e, shortEscape? e = some c ∧ escape c = ['\\', e]) ∨
      (c < ' ' ∧ escape c =
        ['\\', 'u', '0', '0', hexDigit (c.toNat / 16), hexDigit (c.toNat % 16)]) ∨
      (c ≠ '"' ∧ c ≠ '\\' ∧ ¬ c < ' ' ∧ escape c = [c]) := by
  by_cases hletter : ∃ e, (c, e) ∈ escapeLetters
  · obtain ⟨e, he⟩ := hletter
    exact .inl ⟨e, escape_of_letter he⟩
  · right
    simp only [escapeLetters, List.mem_cons, Prod.mk.injEq, List.not_mem_nil, or_false, exists_or,
      exists_eq_right, not_or] at hletter
    obtain ⟨hquote, hslash, hline, hreturn, htab, hback, hfeed⟩ := hletter
    by_cases hspace : c < ' '
    · left
      simp [escape, hquote, hslash, hline, hreturn, htab, hback, hfeed, hspace]
    · right
      simp [escape, hquote, hslash, hline, hreturn, htab, hback, hfeed, hspace]

/-- Reading an escaped character gives the character. -/
theorem readString_escape (c : Char) :
    readString done whole (escape c ++ rest) = readString (c :: done) whole rest := by
  rcases escape_cases c with ⟨e, hshort, heq⟩ | ⟨hspace, heq⟩ | ⟨hquote, hslash, hspace, heq⟩
  · rw [heq]
    exact readString_short hshort
  · have hsmall : c.toNat < 32 := hspace
    have hhigh : isHighSurrogate c.toNat = false := by
      simp only [isHighSurrogate, decide_eq_false_iff_not]
      omega
    have hlow : isLowSurrogate c.toNat = false := by
      simp only [isLowSurrogate, decide_eq_false_iff_not]
      omega
    rw [heq]
    show readString done whole ('\\' :: 'u' :: '0' :: '0' :: _ :: _ :: rest) = _
    rw [readString_unicode (hex4?_hexDigit c.toNat hsmall) hhigh hlow, Char.ofNat_toNat]
  · rw [heq]
    exact readString_plain hquote hslash hspace

/-- Reading what was written for a text gives the text and what follows it. -/
theorem readString_flatMap_escape (cs : List Char) :
    readString done true (cs.flatMap escape ++ '"' :: rest) =
      some (some (String.ofList (done.reverse ++ cs)), rest) := by
  induction cs generalizing done with
  | nil => simp [readString]
  | cons c cs ih =>
      rw [List.flatMap_cons, List.append_assoc, readString_escape, ih, List.reverse_cons,
        List.append_assoc, List.singleton_append]

/-- What is written for a text is read back behind its first quote. -/
theorem readString_writeToken (s : String) (rest : List Char) :
    ∃ cs, writeToken (some s) ++ rest = '"' :: cs ∧
      readString [] true cs = some (some s, rest) := by
  refine ⟨s.toList.flatMap escape ++ '"' :: rest, by simp [writeToken, writeString], ?_⟩
  rw [readString_flatMap_escape, List.reverse_nil, List.nil_append, String.ofList_toList]

end Strings

/-! ## Numbers -/

/-- What can follow a document: nothing, or the next sign of an array or object. -/
def Stops (rest : List Char) : Prop := ∀ c ∈ rest.head?, c ∈ [',', ']', '}']

theorem isDigit_toDigits {n : Nat} : ∀ c ∈ Nat.toDigits 10 n, Decimal.isDigit c = true := by
  intro c hc
  have hdigit : c.isDigit = true := Nat.isDigit_of_mem_toDigits (by decide) (by decide) hc
  have hrange : 48 ≤ c.val ∧ c.val ≤ 57 := by simpa [Char.isDigit] using hdigit
  exact decide_eq_true hrange

theorem exists_toDigits (n : Nat) :
    ∃ d ds, Nat.toDigits 10 n = d :: ds ∧ Decimal.isDigit d = true := by
  obtain ⟨d, ds, hdigits⟩ := List.exists_cons_of_ne_nil (Nat.toDigits_ne_nil (n := n) (b := 10))
  exact ⟨d, ds, hdigits, isDigit_toDigits d (hdigits ▸ List.mem_cons_self)⟩

/-- The digits of a number spell it. -/
theorem value_toDigits (n : Nat) : Decimal.value 10 (Nat.toDigits 10 n) = n := by
  have hfold : ∀ (ds : List Char) (start : Nat), (∀ c ∈ ds, Decimal.isDigit c = true) →
      ds.foldl (fun n c => n * 10 + (Decimal.digit? c).getD 0) start =
        Nat.ofDigitChars 10 ds start := by
    intro ds
    induction ds with
    | nil => intros; rfl
    | cons c ds ih =>
        intro start hds
        have hc : (Decimal.digit? c).getD 0 = c.toNat - '0'.toNat := by
          have hdigit : '0' ≤ c ∧ c ≤ '9' := by
            simpa [Decimal.isDigit] using hds c List.mem_cons_self
          rw [Decimal.digit?, if_pos hdigit, Option.getD_some]
        rw [List.foldl_cons, ih _ fun d hd => hds d (List.mem_cons_of_mem _ hd),
          Nat.ofDigitChars_cons, hc, Nat.mul_comm]
  exact (hfold _ 0 isDigit_toDigits).trans Nat.ofDigitChars_ten_toDigits

/-- No number but zero starts with the digit zero. -/
theorem head?_toDigits {n : Nat} (hn : n ≠ 0) : (Nat.toDigits 10 n).head? ≠ some '0' := by
  induction n using Nat.base_induction 10 (by decide) with
  | single m hm =>
      rw [Nat.toDigits_of_lt_base hm]
      simpa using hn
  | digit m k hk hm ih =>
      have hsome : (Nat.toDigits 10 m).head? =
          some ((Nat.toDigits 10 m).head Nat.toDigits_ne_nil) :=
        List.head?_eq_some_head _
      rw [← Nat.toDigits_append_toDigits (by decide) hm hk, List.head?_append, hsome,
        Option.some_or, ← hsome]
      exact ih (by omega)

theorem spanDigits_append {ds rest : List Char} (hds : ∀ c ∈ ds, Decimal.isDigit c = true)
    (hrest : Stops rest) : spanDigits (ds ++ rest) = (ds, rest) := by
  have hstop : rest.takeWhile Decimal.isDigit = [] ∧ rest.dropWhile Decimal.isDigit = rest := by
    cases rest with
    | nil => exact ⟨rfl, rfl⟩
    | cons c rest =>
        have hnone : [',', ']', '\x7d'].all fun c => Decimal.isDigit c = false := by decide
        have hc : Decimal.isDigit c = false := by
          simpa using List.all_eq_true.mp hnone c (hrest c rfl)
        simp [hc]
  rw [spanDigits, List.span_eq_takeWhile_dropWhile, List.takeWhile_append_of_pos hds,
    List.dropWhile_append_of_pos hds, hstop.1, hstop.2, List.append_nil]

theorem readTail_of_stops {rest : List Char} (h : Stops rest) (negative : Bool)
    (whole : List Char) :
    readTail negative whole rest =
      some (⟨negative, Decimal.value 10 whole, 0, 0, true⟩, rest) := by
  cases rest with
  | nil => simp [readTail]
  | cons c rest =>
      have hc := h c rfl
      simp only [List.mem_cons, List.not_mem_nil, or_false] at hc
      rcases hc with rfl | rfl | rfl <;> simp [readTail]

theorem readUnsigned_toDigits {rest : List Char} (h : Stops rest) (negative : Bool) (n : Nat) :
    readUnsigned negative (Nat.toDigits 10 n ++ rest) = some (⟨negative, n, 0, 0, true⟩, rest) := by
  have htail := readTail_of_stops h negative (Nat.toDigits 10 n)
  rw [value_toDigits] at htail
  rw [readUnsigned, spanDigits_append isDigit_toDigits h]
  split
  · rename_i heq
    exact absurd (Prod.mk.inj heq).1 Nat.toDigits_ne_nil
  · rename_i d ds _ heq
    have hzero : n = 0 := by
      by_contra hn
      exact head?_toDigits hn (by rw [(Prod.mk.inj heq).1, List.head?_cons])
    rw [hzero, Nat.toDigits_zero] at heq
    cases (Prod.mk.inj heq).1
  · rename_i heq
    obtain ⟨rfl, rfl⟩ := Prod.mk.inj heq
    exact htail

/-- Reading what was written for an integer gives the integer and what follows it. -/
theorem readNumber_writeNumber {rest : List Char} (h : Stops rest) (negative : Bool)
    (mantissa : Nat) :
    readNumber (writeNumber ⟨negative, mantissa, 0, 0, true⟩ ++ rest) =
      some (⟨negative, mantissa, 0, 0, true⟩, rest) := by
  have hread := readUnsigned_toDigits h negative mantissa
  cases negative with
  | true =>
      have hsign : writeNumber ⟨true, mantissa, 0, 0, true⟩ ++ rest =
          '-' :: (Nat.toDigits 10 mantissa ++ rest) := by
        simp [writeNumber]
      rw [hsign, readNumber]
      exact hread
  | false =>
      have hplain : writeNumber ⟨false, mantissa, 0, 0, true⟩ ++ rest =
          Nat.toDigits 10 mantissa ++ rest := by
        simp [writeNumber]
      rw [hplain, readNumber]
      · exact hread
      · intro tail heq
        obtain ⟨d, ds, hdigits, hd⟩ := exists_toDigits mantissa
        rw [hdigits, List.cons_append] at heq
        rw [(List.cons.inj heq).1] at hd
        cases hd

/-! ## Documents -/

/-- A document is read back from the front of a text. -/
def ReadsBack (v : Json) : Prop :=
  ∀ (fuel : Nat) (rest : List Char), v.write.length ≤ fuel → Stops rest →
    readValue fuel (v.write ++ rest) = some (v, rest)

theorem readsBack_null : ReadsBack .null := by
  intro fuel rest hfuel _
  cases fuel with
  | zero => cases hfuel
  | succ fuel => rfl

theorem readsBack_bool (b : Bool) : ReadsBack (.bool b) := by
  intro fuel rest hfuel _
  cases fuel with
  | zero => cases b <;> cases hfuel
  | succ fuel => cases b <;> rfl

theorem readsBack_text (s : String) : ReadsBack (.text s) := by
  intro fuel rest hfuel _
  cases fuel with
  | zero => cases hfuel
  | succ fuel =>
      obtain ⟨cs, htoken, hread⟩ := readString_writeToken s rest
      rw [text, write, htoken]
      show (readString [] true cs >>= fun r => some (Json.string r.1, r.2)) = _
      rw [hread]
      rfl

/-- The characters that a number starts with. -/
def numberStarts : List Char := ['-', '0', '1', '2', '3', '4', '5', '6', '7', '8', '9']

theorem mem_numberStarts {c : Char} (h : Decimal.isDigit c = true) : c ∈ numberStarts := by
  have hrange : 48 ≤ c.toNat ∧ c.toNat ≤ 57 := of_decide_eq_true h
  have hall : ∀ n ≤ 57, 48 ≤ n → Char.ofNat n ∈ numberStarts := by decide
  rw [← Char.ofNat_toNat c]
  exact hall c.toNat hrange.2 hrange.1

theorem exists_writeNumber (n : Number) : ∃ c ∈ numberStarts, ∃ cs, writeNumber n = c :: cs := by
  obtain ⟨d, ds, hdigits, hd⟩ := exists_toDigits n.mantissa
  unfold writeNumber
  cases n.negative with
  | true => exact ⟨'-', by decide, _, rfl⟩
  | false => exact ⟨d, mem_numberStarts hd, _, by rw [hdigits]; rfl⟩

/-- What starts as a number is read as one. -/
theorem readValue_number {c : Char} (h : c ∈ numberStarts) (fuel : Nat) (cs : List Char) :
    readValue (fuel + 1) (c :: cs) =
      (readNumber (c :: cs) >>= fun r => some (.number r.1, r.2)) := by
  simp only [numberStarts, List.mem_cons, List.not_mem_nil, or_false] at h
  rcases h with rfl | rfl | rfl | rfl | rfl | rfl | rfl | rfl | rfl | rfl | rfl <;> rfl

theorem readsBack_int (n : Int) : ReadsBack (.int n) := by
  intro fuel rest hfuel hrest
  obtain ⟨c, hc, cs, hcs⟩ := exists_writeNumber (.ofInt n)
  have hread := readNumber_writeNumber hrest (decide (n < 0)) n.natAbs
  cases fuel with
  | zero =>
    rw [int, write, hcs] at hfuel
    cases hfuel
  | succ fuel =>
      show readValue (fuel + 1) (writeNumber (.ofInt n) ++ rest) = _
      rw [Number.ofInt] at hcs ⊢
      rw [hcs, List.cons_append] at hread ⊢
      rw [readValue_number hc, hread]
      rfl

theorem skipBlank_of_not_blank {c : Char} (h : isBlank c = false) (cs : List Char) :
    skipBlank (c :: cs) = c :: cs := by
  simp [skipBlank, h]

/-- No document starts with a blank or a closing bracket. -/
theorem exists_write (v : Json) :
    ∃ c cs, v.write = c :: cs ∧ isBlank c = false ∧ c ≠ ']' := by
  cases v with
  | null => exact ⟨_, _, rfl, by decide, by decide⟩
  | bool b => cases b <;> exact ⟨_, _, rfl, by decide, by decide⟩
  | number n =>
      obtain ⟨c, hc, cs, hcs⟩ := exists_writeNumber n
      have hall : numberStarts.all fun c => isBlank c = false ∧ c ≠ ']' := by decide
      exact ⟨c, cs, hcs, by simpa using List.all_eq_true.mp hall c hc⟩
  | string s => cases s <;> exact ⟨_, _, rfl, by decide, by decide⟩
  | array vs => cases vs <;> exact ⟨_, _, rfl, by decide, by decide⟩
  | object ms => rcases ms with _ | ⟨⟨n, v⟩, ms⟩ <;> exact ⟨_, _, rfl, by decide, by decide⟩

theorem readValue_array {c : Char} (hblank : isBlank c = false) (hclose : c ≠ ']') (fuel : Nat)
    (cs : List Char) :
    readValue (fuel + 1) ('[' :: c :: cs) =
      (readItems fuel (c :: cs) >>= fun r => some (.array r.1, r.2)) := by
  have hbracket : skipBlank ('[' :: c :: cs) = '[' :: c :: cs := rfl
  unfold readValue
  simp only [hbracket, skipBlank_of_not_blank hblank]
  split
  · rename_i heq
    exact absurd (List.cons.inj heq).1 hclose
  · rfl

section Steps

variable {fuel : Nat} {cs cs' rest : List Char} {name : Option String} {v : Json}

theorem readItems_last (h : readValue fuel cs = some (v, ']' :: rest)) :
    readItems (fuel + 1) cs = some ([v], rest) := by
  rw [readItems, h]
  rfl

theorem readItems_more {vs : List Json} (h : readValue fuel cs = some (v, ',' :: cs'))
    (h' : readItems fuel cs' = some (vs, rest)) :
    readItems (fuel + 1) cs = some (v :: vs, rest) := by
  rw [readItems, h]
  show (readItems fuel cs' >>= fun r => some (v :: r.1, r.2)) = _
  rw [h']
  rfl

theorem readMembers_last (hname : readString [] true cs = some (name, ':' :: cs'))
    (h : readValue fuel cs' = some (v, '\x7d' :: rest)) :
    readMembers (fuel + 1) ('"' :: cs) = some ([(name, v)], rest) := by
  show (readString [] true cs >>= _) = _
  rw [hname]
  show (readValue fuel cs' >>= _) = _
  rw [h]
  rfl

theorem readMembers_more {ms : List (Option String × Json)} {cs'' : List Char}
    (hname : readString [] true cs = some (name, ':' :: cs'))
    (h : readValue fuel cs' = some (v, ',' :: cs''))
    (h' : readMembers fuel cs'' = some (ms, rest)) :
    readMembers (fuel + 1) ('"' :: cs) = some ((name, v) :: ms, rest) := by
  show (readString [] true cs >>= _) = _
  rw [hname]
  show (readValue fuel cs' >>= _) = _
  rw [h]
  show (readMembers fuel cs'' >>= _) = _
  rw [h']
  rfl

end Steps

theorem stops_cons {c : Char} (h : c ∈ [',', ']', '\x7d']) (cs : List Char) : Stops (c :: cs) := by
  intro c' hc'
  cases hc'
  exact h

/-- Items are read back up to the closing bracket. -/
theorem readItems_write {v : Json} {vs : List Json} (h : ∀ w ∈ v :: vs, ReadsBack w) (fuel : Nat)
    (rest : List Char) (hfuel : v.write.length + (writeItems vs).length ≤ fuel) :
    readItems fuel (v.write ++ (writeItems vs ++ rest)) = some (v :: vs, rest) := by
  induction vs generalizing v fuel with
  | nil =>
      simp only [writeItems, List.length_singleton] at hfuel
      cases fuel with
      | zero => omega
      | succ fuel =>
          have hread := h v List.mem_cons_self fuel (']' :: rest) (by omega)
            (stops_cons (by decide) rest)
          exact readItems_last hread
  | cons w vs ih =>
      simp only [writeItems, List.length_cons, List.length_append] at hfuel
      cases fuel with
      | zero => omega
      | succ fuel =>
          have hread := h v List.mem_cons_self fuel (writeItems (w :: vs) ++ rest) (by omega)
            (stops_cons (by decide) _)
          have hrest := ih (fun w' hw' => h w' (List.mem_cons_of_mem _ hw')) fuel (by omega)
          rw [← List.append_assoc] at hrest
          exact readItems_more hread hrest

theorem readsBack_array {vs : List Json} (h : ∀ v ∈ vs, ReadsBack v) : ReadsBack (.array vs) := by
  intro fuel rest hfuel _
  cases vs with
  | nil =>
      cases fuel with
      | zero => cases hfuel
      | succ fuel => rfl
  | cons v vs =>
      obtain ⟨c, cs, hwrite, hblank, hclose⟩ := exists_write v
      simp only [write, List.length_cons, List.length_append] at hfuel
      cases fuel with
      | zero => omega
      | succ fuel =>
          have hitems := readItems_write h fuel rest (by omega)
          rw [hwrite, List.cons_append] at hitems
          rw [write, hwrite, List.cons_append, List.cons_append, List.cons_append,
            List.append_assoc, readValue_array hblank hclose, hitems]
          rfl

/-- The members of an object whose names are texts. -/
def named (ms : List (String × Json)) : List (Option String × Json) :=
  ms.map fun (n, v) => (some n, v)

/-- Members are read back up to the closing brace. -/
theorem readMembers_write {m : String × Json} {ms : List (String × Json)}
    (h : ∀ m' ∈ m :: ms, ReadsBack m'.2) (fuel : Nat) (rest : List Char)
    (hfuel : m.2.write.length + (writeMembers (named ms)).length < fuel) :
    readMembers fuel (writeToken (some m.1) ++
      ':' :: (m.2.write ++ (writeMembers (named ms) ++ rest))) = some (named (m :: ms), rest) := by
  induction ms generalizing m fuel with
  | nil =>
      obtain ⟨cs, htoken, hname⟩ := readString_writeToken m.1
        (':' :: (m.2.write ++ (writeMembers (named []) ++ rest)))
      cases fuel with
      | zero => omega
      | succ fuel =>
          have hread := h m List.mem_cons_self fuel ('\x7d' :: rest) (by omega)
            (stops_cons (by decide) rest)
          rw [htoken]
          exact readMembers_last hname hread
  | cons m' ms ih =>
      obtain ⟨cs, htoken, hname⟩ := readString_writeToken m.1
        (':' :: (m.2.write ++ (writeMembers (named (m' :: ms)) ++ rest)))
      have hmore : writeMembers (named (m' :: ms)) ++ rest = ',' :: (writeToken (some m'.1) ++
          ':' :: (m'.2.write ++ (writeMembers (named ms) ++ rest))) := by
        simp [named, writeMembers]
      have hlength : m'.2.write.length + (writeMembers (named ms)).length <
          (writeMembers (named (m' :: ms))).length := by
        simp only [named, List.map_cons, writeMembers, List.length_cons, List.length_append]
        omega
      cases fuel with
      | zero => omega
      | succ fuel =>
          have hread := h m List.mem_cons_self fuel (writeMembers (named (m' :: ms)) ++ rest)
            (by omega) (by rw [hmore]; exact stops_cons (by decide) _)
          have hrest := ih (fun m'' hm'' => h m'' (List.mem_cons_of_mem _ hm'')) fuel (by omega)
          rw [htoken]
          exact readMembers_more hname (hread.trans (by rw [hmore])) hrest

theorem readValue_object (fuel : Nat) (cs : List Char) :
    readValue (fuel + 1) ('\x7b' :: '"' :: cs) =
      (readMembers fuel ('"' :: cs) >>= fun r => some (.object r.1, r.2)) := rfl

theorem readsBack_record {ms : List (String × Json)} (h : ∀ m ∈ ms, ReadsBack m.2) :
    ReadsBack (.record ms) := by
  intro fuel rest hfuel _
  cases ms with
  | nil =>
      cases fuel with
      | zero => cases hfuel
      | succ fuel => rfl
  | cons m ms =>
      have htext : (record (m :: ms)).write ++ rest = '\x7b' :: (writeToken (some m.1) ++
          ':' :: (m.2.write ++ (writeMembers (named ms) ++ rest))) := by
        simp [record, named, write]
      have hlength : (record (m :: ms)).write.length = (writeToken (some m.1)).length +
          (m.2.write.length + (writeMembers (named ms)).length) + 2 := by
        simp only [record, named, List.map_cons, write, List.length_cons, List.length_append]
        omega
      cases fuel with
      | zero => omega
      | succ fuel =>
          have hmembers := readMembers_write h fuel rest (by omega)
          obtain ⟨cs, htoken, -⟩ := readString_writeToken m.1
            (':' :: (m.2.write ++ (writeMembers (named ms) ++ rest)))
          rw [htoken] at hmembers htext
          rw [htext, readValue_object, hmembers]
          rfl

/-- A tidy document is read back from the front of a text. -/
theorem readValue_write {levels : Nat} {v : Json} (h : Tidy levels v) : ReadsBack v := by
  induction h with
  | null => exact readsBack_null
  | bool b => exact readsBack_bool b
  | int _ => exact readsBack_int _
  | text s => exact readsBack_text s
  | array _ ih => exact readsBack_array ih
  | record _ ih => exact readsBack_record ih

/-- Reading the text that was written for a tidy document gives the document back. -/
theorem parse?_render {levels : Nat} {v : Json} (h : Tidy levels v) :
    parse? (render v) = some v := by
  have hread := readValue_write h (2 * v.write.length + 2) [] (by omega) (by intro c hc; cases hc)
  rw [List.append_nil] at hread
  rw [parse?, render, String.toList_ofList, hread]
  rfl

end VulkanWire.Json

import Mathlib.Data.List.TakeWhile
import AndroidMessenger.Library.JsonScan
import AndroidMessenger.Library.JsonText

namespace AndroidMessenger.Library.JsonText

open JsonScan (State Mode IsPlain)

/-! The scanner follows the parser: what is read as an object scans as one. -/

def encodeChars (chars : List Char) : Bytes :=
  chars.flatMap String.utf8EncodeChar

@[simp] theorem encodeChars_nil : encodeChars [] = [] := rfl

@[simp] theorem encodeChars_cons (char : Char) (chars : List Char) :
    encodeChars (char :: chars) = String.utf8EncodeChar char ++ encodeChars chars := rfl

@[simp] theorem encodeChars_append (first second : List Char) :
    encodeChars (first ++ second) = encodeChars first ++ encodeChars second :=
  List.flatMap_append

theorem mem_utf8EncodeChar {char : Char} {byte : UInt8}
    (inside : byte ∈ String.utf8EncodeChar char) :
    128 ≤ byte.toNat ∨ byte.toNat = char.toNat := by
  unfold String.utf8EncodeChar at inside
  simp only [] at inside
  split at inside
  · right
    obtain rfl := List.mem_singleton.mp inside
    change (UInt8.ofNat char.val.toNat).toNat = char.val.toNat
    rw [UInt8.toNat_ofNat']
    omega
  · left
    split at inside
    · simp only [List.mem_cons, List.not_mem_nil, or_false] at inside
      rcases inside with rfl | rfl <;> rw [UInt8.toNat_ofNat'] <;> omega
    · split at inside
      · simp only [List.mem_cons, List.not_mem_nil, or_false] at inside
        rcases inside with rfl | rfl | rfl <;> rw [UInt8.toNat_ofNat'] <;> omega
      · simp only [List.mem_cons, List.not_mem_nil, or_false] at inside
        rcases inside with rfl | rfl | rfl | rfl <;> rw [UInt8.toNat_ofNat'] <;> omega

/-- The character means nothing outside strings. -/
def PlainChar (char : Char) : Prop :=
  char ≠ quotationMark ∧ char ≠ '{' ∧ char ≠ '}' ∧ char ≠ reverseSolidus ∧ char ≠ 'y'

instance (char : Char) : Decidable (PlainChar char) :=
  inferInstanceAs (Decidable (_ ∧ _))

theorem byte_ne {char special : Char} {byte code : UInt8} (differ : char ≠ special)
    (same : code.toNat = special.toNat) (ascii : code.toNat < 128)
    (inside : byte ∈ String.utf8EncodeChar char) : byte ≠ code := by
  rintro rfl
  rcases mem_utf8EncodeChar inside with high | equal
  · omega
  · apply differ
    rw [← Char.ofNat_toNat char, ← equal, same, Char.ofNat_toNat]

/-- The scanner gets from one mode to the other, and a `y` in a string does not escape it. -/
def Leads (first last : Mode) (chars : List Char) (spells : Prop) : Prop :=
  ∀ values spelled, ∃ after,
    State.run ⟨first, values, spelled⟩ (encodeChars chars) = ⟨last, values, after⟩ ∧
      (spelled = true ∨ spells → after = true)

namespace Leads

variable {first middle last : Mode} {chars more : List Char} {spells also : Prop}

theorem nil (mode : Mode) : Leads mode mode [] False :=
  fun _ spelled => ⟨spelled, rfl, fun given => given.resolve_right id⟩

theorem append (head : Leads first middle chars spells) (tail : Leads middle last more also) :
    Leads first last (chars ++ more) (spells ∨ also) := by
  intro values spelled
  obtain ⟨between, reaches, keeps⟩ := head values spelled
  obtain ⟨after, ends, keeps'⟩ := tail values between
  refine ⟨after, by rw [encodeChars_append, State.run_append, reaches, ends], ?_⟩
  rintro (before | here | there)
  · exact keeps' (Or.inl (keeps (Or.inl before)))
  · exact keeps' (Or.inl (keeps (Or.inr here)))
  · exact keeps' (Or.inr there)

theorem mono (leads : Leads first last chars spells) (implies : also → spells) :
    Leads first last chars also := by
  intro values spelled
  obtain ⟨after, reaches, keeps⟩ := leads values spelled
  exact ⟨after, reaches, fun given => keeps (given.imp_right implies)⟩

theorem cons {char : Char} (head : Leads first middle [char] spells)
    (tail : Leads middle last more also) : Leads first last (char :: more) (spells ∨ also) :=
  head.append tail

theorem all (each : ∀ char ∈ chars, Leads first first [char] False) :
    Leads first first chars False := by
  induction chars with
  | nil => exact nil _
  | cons char chars ih =>
      apply mono (cons (each char List.mem_cons_self) (ih ?_)) False.elim
      exact fun other inside => each other (List.mem_cons_of_mem char inside)

theorem byte {char : Char} {code : UInt8} (encoded : String.utf8EncodeChar char = [code])
    (steps : first.step code = last) (stays : ¬ (first = .inside 0 ∧ code = JsonScan.closeBrace)) :
    Leads first last [char] False := by
  intro values spelled
  refine ⟨(State.step ⟨first, values, spelled⟩ code).spelled, ?_, ?_⟩
  · rw [encodeChars_cons, encoded, encodeChars_nil, List.append_nil, State.run_cons,
      State.run_nil, State.step, steps, if_neg stays]
  · intro given
    obtain rfl := given.resolve_right id
    cases first <;> rfl

theorem plain {char : Char} (isPlain : PlainChar char) (depth : Nat) :
    Leads (.inside depth) (.inside depth) [char] False := by
  intro values spelled
  obtain ⟨noMark, noOpen, noClose, noSolidus, noLetter⟩ := isPlain
  refine ⟨spelled, ?_, fun given => given.resolve_right id⟩
  rw [encodeChars_cons, encodeChars_nil, List.append_nil]
  apply State.run_inside
  intro byte inside
  exact ⟨byte_ne noMark rfl (by decide) inside, byte_ne noOpen rfl (by decide) inside,
    byte_ne noClose rfl (by decide) inside, byte_ne noSolidus rfl (by decide) inside,
    byte_ne noLetter rfl (by decide) inside⟩

theorem quoted {char : Char} (noMark : char ≠ quotationMark) (noSolidus : char ≠ reverseSolidus)
    (depth : Nat) : Leads (.quoted depth) (.quoted depth) [char] (char = 'y') := by
  intro values spelled
  rw [encodeChars_cons, encodeChars_nil, List.append_nil, State.run_quoted fun byte inside =>
    ⟨byte_ne noMark rfl (by decide) inside, byte_ne noSolidus rfl (by decide) inside⟩]
  refine ⟨_, rfl, ?_⟩
  rintro (rfl | rfl)
  · rfl
  · simp [show JsonScan.letterY ∈ String.utf8EncodeChar 'y' by decide]

theorem escaped {letter : Char} {code : UInt8} (encoded : String.utf8EncodeChar letter = [code])
    (depth : Nat) : Leads (.quoted depth) (.quoted depth) [reverseSolidus, letter] True := by
  intro values spelled
  refine ⟨true, ?_, fun _ => rfl⟩
  have solidus : String.utf8EncodeChar reverseSolidus = [JsonScan.reverseSolidus] := by decide
  rw [encodeChars_cons, encodeChars_cons, encoded, solidus, encodeChars_nil]
  simp [State.step, Mode.step, JsonScan.reverseSolidus, JsonScan.quotationMark]

end Leads

theorem encoded_of_shortEscaped {letter char : Char} (escapes : shortEscaped letter = some char) :
    ∃ code, String.utf8EncodeChar letter = [code] := by
  have short : ∀ pair ∈ shortEscapes,
      String.utf8EncodeChar pair.2 = [UInt8.ofNat pair.2.toNat] := by decide
  obtain ⟨pair, found, _⟩ := Option.map_eq_some_iff.mp escapes
  have same : pair.2 = letter := by simpa using List.find?_some found
  rw [← same]
  exact ⟨_, short pair (List.mem_of_find?_eq_some found)⟩

theorem open_of_hexValue {digit : Char} {value : Nat} (read : hexValue digit = some value) :
    digit ≠ quotationMark ∧ digit ≠ reverseSolidus := by
  constructor
  · rintro rfl
    revert read
    decide +revert
  · rintro rfl
    revert read
    decide +revert

theorem leads_hexCode {first second third fourth : Char} {code : Nat}
    (read : hexCode first second third fourth = some code) (depth : Nat) :
    Leads (.quoted depth) (.quoted depth) [first, second, third, fourth] False := by
  unfold hexCode at read
  simp only [bind, Option.bind_eq_some_iff] at read
  obtain ⟨_, one, _, two, _, three, _, four, _⟩ := read
  apply Leads.all
  intro char inside
  simp only [List.mem_cons, List.not_mem_nil, or_false] at inside
  have isDigit : ∃ value, hexValue char = some value := by
    rcases inside with rfl | rfl | rfl | rfl
    · exact ⟨_, one⟩
    · exact ⟨_, two⟩
    · exact ⟨_, three⟩
    · exact ⟨_, four⟩
  obtain ⟨value, read⟩ := isDigit
  obtain ⟨noMark, noSolidus⟩ := open_of_hexValue read
  exact (Leads.quoted noMark noSolidus depth).mono False.elim

theorem leads_string {char : Char} {head more text rest : List Char} {spells : Prop}
    {depth : Nat}
    (read : ((unquote more).map fun (text, rest) => (char :: text, rest)) = some (text, rest))
    (next : ∀ {text rest}, unquote more = some (text, rest) → ∃ used, more = used ++ rest ∧
      Leads (.quoted depth) (.inside depth) used ('y' ∈ text))
    (leads : Leads (.quoted depth) (.quoted depth) head spells) (covers : char = 'y' → spells) :
    ∃ used, head ++ more = used ++ rest ∧
      Leads (.quoted depth) (.inside depth) used ('y' ∈ text) := by
  obtain ⟨⟨others, _⟩, found, equality⟩ := Option.map_eq_some_iff.mp read
  cases equality
  obtain ⟨used, rfl, passes⟩ := next found
  refine ⟨head ++ used, (List.append_assoc _ _ _).symm, (leads.append passes).mono ?_⟩
  intro inside
  rcases List.mem_cons.mp inside with same | later
  · exact Or.inl (covers same.symm)
  · exact Or.inr later

theorem unquote_leads {input text rest : List Char} (read : unquote input = some (text, rest))
    (depth : Nat) :
    ∃ used, input = used ++ rest ∧
      Leads (.quoted depth) (.inside depth) used ('y' ∈ text) := by
  have letterU : String.utf8EncodeChar 'u' = [117] := by decide
  have mark : String.utf8EncodeChar quotationMark = [JsonScan.quotationMark] := by decide
  fun_induction unquote input generalizing text rest with
  | case2 rest =>
      cases read
      exact ⟨[quotationMark], rfl, (Leads.byte mark rfl (by simp)).mono (by simp)⟩
  | case4 letter more char escapes _ ih =>
      obtain ⟨code, encoded⟩ := encoded_of_shortEscaped escapes
      exact leads_string read ih (Leads.escaped encoded depth) fun _ => trivial
  | case7 first second third fourth high code _ solidus letter fifth sixth seventh eighth more
      low code' pair _ _ ih =>
      obtain ⟨rfl, rfl, _⟩ := pair
      exact leads_string read ih
        (((Leads.escaped letterU depth).append (leads_hexCode code depth)).append
          ((Leads.escaped letterU depth).append (leads_hexCode code' depth)))
        fun _ => Or.inl (Or.inl trivial)
  | case11 first second third fourth more value code _ _ _ _ ih =>
      exact leads_string read ih
        ((Leads.escaped letterU depth).append (leads_hexCode code depth))
        fun _ => Or.inl trivial
  | case14 char more noMark noSolidus ih =>
      exact leads_string read ih (Leads.quoted noMark noSolidus depth) id
  | case1 => cases read
  | case3 => cases read
  | case5 => cases read
  | case6 => cases read
  | case8 => cases read
  | case9 => cases read
  | case10 => cases read
  | case12 => cases read
  | case13 => cases read

/-! Space, and what stands for itself. -/

theorem skipSpace_append (input : List Char) :
    ∃ space, input = space ++ skipSpace input ∧ ∀ char ∈ space, isSpace char = true :=
  ⟨input.takeWhile isSpace, (List.takeWhile_append_dropWhile ..).symm,
    fun _ inside => List.mem_takeWhile_imp inside⟩

theorem encoded_of_isSpace {char : Char} (space : isSpace char = true) :
    ∃ code, String.utf8EncodeChar char = [code] ∧ JsonScan.isBlank code = true := by
  have isOne : char = ' ' ∨ char = Char.ofNat 9 ∨ char = Char.ofNat 10 ∨
      char = Char.ofNat 13 := by
    simp only [isSpace, Bool.or_eq_true, beq_iff_eq] at space
    rcases space with ((rfl | tab) | line) | feed
    · exact Or.inl rfl
    · exact Or.inr (Or.inl (by rw [← tab, Char.ofNat_toNat]))
    · exact Or.inr (Or.inr (Or.inl (by rw [← line, Char.ofNat_toNat])))
    · exact Or.inr (Or.inr (Or.inr (by rw [← feed, Char.ofNat_toNat])))
  rcases isOne with rfl | rfl | rfl | rfl
  · exact ⟨32, by decide, by decide⟩
  · exact ⟨9, by decide, by decide⟩
  · exact ⟨10, by decide, by decide⟩
  · exact ⟨13, by decide, by decide⟩

theorem Leads.space {mode : Mode} (blank : ∀ code, JsonScan.isBlank code = true →
      mode.step code = mode ∧ code ≠ JsonScan.closeBrace) {space : List Char}
    (isSpace : ∀ char ∈ space, isSpace char = true) : Leads mode mode space False := by
  apply Leads.all
  intro char inside
  obtain ⟨code, encoded, isBlank⟩ := encoded_of_isSpace (isSpace char inside)
  obtain ⟨steps, other⟩ := blank code isBlank
  exact Leads.byte encoded steps fun ends => other ends.2

theorem Leads.skipSpace_inside (input : List Char) (depth : Nat) :
    ∃ space, input = space ++ skipSpace input ∧
      Leads (.inside depth) (.inside depth) space False := by
  obtain ⟨space, split, isSpace⟩ := skipSpace_append input
  refine ⟨space, split, Leads.space ?_ isSpace⟩
  intro code blank
  have plain := JsonScan.isPlain_of_isBlank blank
  exact ⟨Mode.step_inside_of_isPlain plain depth, plain.2.2.1⟩

theorem Leads.skipSpace_between (input : List Char) :
    ∃ space, input = space ++ skipSpace input ∧ Leads .between .between space False := by
  obtain ⟨space, split, isSpace⟩ := skipSpace_append input
  refine ⟨space, split, Leads.space ?_ isSpace⟩
  intro code blank
  exact ⟨Mode.step_between_of_isBlank blank, (JsonScan.isPlain_of_isBlank blank).2.2.1⟩

theorem plain_of_isDigit {char : Char} (isDigit : isDigit char = true) : PlainChar char := by
  simp only [JsonText.isDigit, Bool.and_eq_true, decide_eq_true_eq] at isDigit
  unfold PlainChar
  refine ⟨?_, ?_, ?_, ?_, ?_⟩ <;> rintro rfl <;> revert isDigit <;> decide

/-- What was read is the text, and it means nothing outside strings. -/
def ReadsPlain (input text rest : List Char) : Prop :=
  input = text ++ rest ∧ ∀ char ∈ text, PlainChar char

theorem readsPlain_digits {input text rest : List Char}
    (read : digits input = some (text, rest)) : ReadsPlain input text rest := by
  unfold digits at read
  rw [List.span_eq_takeWhile_dropWhile] at read
  split at read
  · cases read
  · rename_i first run rest' split
    cases read
    obtain ⟨taken, dropped⟩ := Prod.mk.inj split
    refine ⟨?_, ?_⟩
    · rw [← taken, ← dropped, List.takeWhile_append_dropWhile]
    · intro char inside
      rw [← taken] at inside
      exact plain_of_isDigit (List.mem_takeWhile_imp inside)

theorem ReadsPlain.cons {char : Char} {input text rest : List Char}
    (plain : PlainChar char) (reads : ReadsPlain input text rest) :
    ReadsPlain (char :: input) (char :: text) rest := by
  obtain ⟨rfl, isPlain⟩ := reads
  refine ⟨rfl, ?_⟩
  intro other inside
  rcases List.mem_cons.mp inside with rfl | later
  · exact plain
  · exact isPlain other later

theorem ReadsPlain.append {input text between more rest : List Char}
    (first : ReadsPlain input text between) (second : ReadsPlain between more rest) :
    ReadsPlain input (text ++ more) rest := by
  obtain ⟨rfl, plain⟩ := first
  obtain ⟨rfl, plain'⟩ := second
  refine ⟨(List.append_assoc _ _ _).symm, ?_⟩
  intro char inside
  rcases List.mem_append.mp inside with before | after
  · exact plain char before
  · exact plain' char after

theorem ReadsPlain.nil (input : List Char) : ReadsPlain input [] input :=
  ⟨rfl, fun _ inside => absurd inside List.not_mem_nil⟩

theorem plain_literal {word input text rest : List Char}
    (plain : (word.all fun char => PlainChar char) = true)
    (read : literal word input = some (text, rest)) : ReadsPlain input text rest := by
  unfold literal at read
  split at read
  · rename_i same
    cases read
    refine ⟨?_, fun char inside => of_decide_eq_true (List.all_eq_true.mp plain char inside)⟩
    conv_lhs => rw [← List.take_append_drop word.length input, same]
  · cases read

theorem readsPlain_integerPart {input text rest : List Char}
    (read : integerPart input = some (text, rest)) : ReadsPlain input text rest := by
  unfold integerPart at read
  split at read
  · cases read
  · split at read
    · rename_i zero
      cases read
      rw [zero]
      exact (ReadsPlain.nil _).cons (by decide)
    · exact readsPlain_digits read

theorem readsPlain_fractionPart {input text rest : List Char}
    (read : fractionPart input = some (text, rest)) : ReadsPlain input text rest := by
  unfold fractionPart at read
  split at read
  · cases read
    exact ReadsPlain.nil _
  · split at read
    · rename_i point
      obtain ⟨⟨run, _⟩, found, equality⟩ := Option.map_eq_some_iff.mp read
      cases equality
      rw [point]
      exact (readsPlain_digits found).cons (by decide)
    · cases read
      exact ReadsPlain.nil _

theorem readsPlain_exponentPart {input text rest : List Char}
    (read : exponentPart input = some (text, rest)) : ReadsPlain input text rest := by
  unfold exponentPart at read
  split at read
  · cases read
    exact ReadsPlain.nil _
  · split at read
    · rename_i first more isE
      have letter : PlainChar first := by rcases isE with rfl | rfl <;> decide
      split at read
      · cases read
      · rename_i sign tail
        split at read
        · rename_i isSign
          have signPlain : PlainChar sign := by rcases isSign with rfl | rfl <;> decide
          obtain ⟨⟨run, _⟩, found, equality⟩ := Option.map_eq_some_iff.mp read
          cases equality
          exact ((readsPlain_digits found).cons signPlain).cons letter
        · obtain ⟨⟨run, _⟩, found, equality⟩ := Option.map_eq_some_iff.mp read
          cases equality
          exact (readsPlain_digits found).cons letter
    · cases read
      exact ReadsPlain.nil _

theorem readsPlain_number {input text rest : List Char}
    (read : number input = some (text, rest)) : ReadsPlain input text rest := by
  cases input with
  | nil => cases read
  | cons first more =>
      unfold number at read
      by_cases minus : first = '-'
      · simp only [minus, if_true, bind, Option.bind_eq_some_iff] at read
        obtain ⟨⟨integer, _⟩, one, ⟨fraction, _⟩, two, ⟨exponent, _⟩, three, equality⟩ := read
        cases equality
        rw [minus]
        exact (((readsPlain_integerPart one).append (readsPlain_fractionPart two)).append
          (readsPlain_exponentPart three)).cons (by decide)
      · simp only [minus, if_false, bind, Option.bind_eq_some_iff] at read
        obtain ⟨⟨integer, _⟩, one, ⟨fraction, _⟩, two, ⟨exponent, _⟩, three, equality⟩ := read
        cases equality
        exact ((readsPlain_integerPart one).append (readsPlain_fractionPart two)).append
          (readsPlain_exponentPart three)

theorem readsPlain_scalar {input text rest : List Char}
    (read : scalar input = some (text, rest)) : ReadsPlain input text rest := by
  unfold scalar at read
  simp only [Option.orElse_eq_orElse, Option.orElse_eq_or, Option.or_eq_some_iff] at read
  rcases read with isTrue | ⟨_, isFalse | ⟨_, isNull | ⟨_, isNumber⟩⟩⟩
  · exact plain_literal (by decide) isTrue
  · exact plain_literal (by decide) isFalse
  · exact plain_literal (by decide) isNull
  · exact readsPlain_number isNumber

/-! Values, items and members. -/

theorem leads_colon (depth : Nat) : Leads (.inside depth) (.inside depth) [':'] False :=
  Leads.plain (by decide) depth

theorem leads_mark (depth : Nat) :
    Leads (.inside depth) (.quoted depth) [quotationMark] False :=
  Leads.byte (show _ = [JsonScan.quotationMark] by decide) rfl fun ends =>
    absurd ends.2 (by decide)

theorem parseKey_leads {input rest : List Char} {key : String}
    (read : parseKey input = some (key, rest)) (depth : Nat) :
    ∃ used, input = used ++ rest ∧
      Leads (.inside depth) (.inside depth) used ('y' ∈ key.toList) := by
  obtain ⟨space, split, leads⟩ := Leads.skipSpace_inside input depth
  unfold parseKey at read
  split at read
  · cases read
  · rename_i first more found
    split at read
    · rename_i isMark
      split at read
      · cases read
      · rename_i text between unquoted
        obtain ⟨string, rfl, string'⟩ := unquote_leads unquoted depth
        obtain ⟨gap, split', leads'⟩ := Leads.skipSpace_inside between depth
        split at read
        · cases read
        · rename_i colon tail found'
          split at read
          · rename_i isColon
            cases read
            refine ⟨space ++ (quotationMark :: string) ++ (gap ++ [':']), ?_, ?_⟩
            · rw [split, found, isMark, split', found', isColon]
              simp
            · apply ((leads.append ((leads_mark depth).cons string')).append
                (leads'.append (leads_colon depth))).mono
              intro inside
              exact Or.inl (Or.inr (Or.inr (by simpa using inside)))
          · cases read
    · cases read

/-- What the three readers take from their input, with the fuel that they have. -/
structure Follows (fuel : Nat) : Prop where
  value : ∀ {input tree rest}, parse fuel input = some (tree, rest) → ∀ depth,
    ∃ used, input = used ++ rest ∧ Leads (.inside depth) (.inside depth) used False
  items : ∀ {input children rest}, parseItems fuel input = some (children, rest) → ∀ depth,
    ∃ used, input = used ++ rest ∧ Leads (.inside depth) (.inside depth) used False
  members : ∀ {input children rest}, parseMembers fuel input = some (children, rest) →
    ∀ depth, ∃ body, input = body ++ '}' :: rest ∧
      Leads (.inside depth) (.inside depth) body
        (∃ key, 'y' ∈ key.toList ∧ (children.find? key).isSome = true)

theorem leads_braces {body : List Char} {spells : Prop} {depth : Nat}
    (leads : Leads (.inside (depth + 1)) (.inside (depth + 1)) body spells) :
    Leads (.inside depth) (.inside depth) ('{' :: (body ++ ['}'])) False := by
  have opens : Leads (.inside depth) (.inside (depth + 1)) ['{'] False :=
    Leads.byte (show _ = [JsonScan.openBrace] by decide) rfl fun ends =>
      absurd ends.2 (by decide)
  have closes : Leads (.inside (depth + 1)) (.inside depth) ['}'] False :=
    Leads.byte (show _ = [JsonScan.closeBrace] by decide) rfl (by simp)
  exact (opens.cons (leads.append closes)).mono False.elim

namespace Follows

variable {fuel : Nat} (follows : Follows fuel) {input rest : List Char}

include follows

theorem member {key : String} {child : Ptree} {children : Children}
    {value members : List Char} (name : parseKey input = some (key, value))
    (read : parse fuel value = some (child, members))
    (others : parseMembers fuel members = some (children, rest)) (depth : Nat) :
    ∃ body, input = body ++ '}' :: rest ∧
      Leads (.inside depth) (.inside depth) body (∃ other, 'y' ∈ other.toList ∧
        ((Children.cons key child children).find? other).isSome = true) := by
  obtain ⟨named, rfl, leadsName⟩ := parseKey_leads name depth
  obtain ⟨valued, rfl, leadsValue⟩ := follows.value read depth
  obtain ⟨body, rfl, leadsBody⟩ := follows.members others depth
  refine ⟨named ++ (valued ++ body), by simp, ?_⟩
  apply (leadsName.append (leadsValue.append leadsBody)).mono
  rintro ⟨other, spelled, isMember⟩
  unfold Children.find? at isMember
  split at isMember
  · rename_i same
    obtain rfl : key = other := same
    exact Or.inl spelled
  · exact Or.inr (Or.inr ⟨other, spelled, isMember⟩)

theorem value_succ {tree : Ptree} (read : parse (fuel + 1) input = some (tree, rest))
    (depth : Nat) :
    ∃ used, input = used ++ rest ∧ Leads (.inside depth) (.inside depth) used False := by
  obtain ⟨space, split, leads⟩ := Leads.skipSpace_inside input depth
  unfold parse at read
  split at read
  · cases read
  · rename_i first more found
    rw [found] at split
    split at read
    · rename_i isMark
      obtain ⟨⟨text, _⟩, unquoted, equality⟩ := Option.map_eq_some_iff.mp read
      cases equality
      obtain ⟨string, rfl, leadsString⟩ := unquote_leads unquoted depth
      refine ⟨space ++ quotationMark :: string, ?_, ?_⟩
      · rw [split, isMark]
        simp
      · exact (leads.append ((leads_mark depth).cons leadsString)).mono False.elim
    · split at read
      · rename_i isBracket
        split at read
        · rename_i isEmpty
          cases read
          obtain ⟨gap, split', leads'⟩ := Leads.skipSpace_inside more depth
          obtain ⟨tail, found'⟩ := List.head?_eq_some_iff.mp isEmpty
          refine ⟨space ++ '[' :: (gap ++ [']']), ?_, ?_⟩
          · rw [found', split, isBracket, split', found']
            simp
          · exact (leads.append ((Leads.plain (by decide) depth).cons (leads'.append
              (Leads.plain (by decide) depth)))).mono False.elim
        · simp only [bind, Option.bind_eq_some_iff] at read
          obtain ⟨⟨child, _⟩, one, ⟨others, _⟩, two, equality⟩ := read
          cases equality
          obtain ⟨value, rfl, leadsValue⟩ := follows.value one depth
          obtain ⟨items, rfl, leadsItems⟩ := follows.items two depth
          refine ⟨space ++ '[' :: (value ++ items), ?_, ?_⟩
          · rw [split, isBracket]
            simp
          · exact (leads.append ((Leads.plain (by decide) depth).cons
              (leadsValue.append leadsItems))).mono False.elim
      · split at read
        · rename_i isBrace
          split at read
          · rename_i isEmpty
            cases read
            obtain ⟨gap, split', leads'⟩ := Leads.skipSpace_inside more (depth + 1)
            obtain ⟨tail, found'⟩ := List.head?_eq_some_iff.mp isEmpty
            refine ⟨space ++ '{' :: (gap ++ ['}']), ?_, ?_⟩
            · rw [found', split, isBrace, split', found']
              simp
            · exact (leads.append (leads_braces leads')).mono False.elim
          · simp only [bind, Option.bind_eq_some_iff] at read
            obtain ⟨⟨key, _⟩, zero, ⟨child, _⟩, one, ⟨others, _⟩, two, equality⟩ := read
            cases equality
            obtain ⟨body, rfl, leadsBody⟩ := follows.member zero one two (depth + 1)
            refine ⟨space ++ '{' :: (body ++ ['}']), ?_, ?_⟩
            · rw [split, isBrace]
              simp
            · exact (leads.append (leads_braces leadsBody)).mono False.elim
        · obtain ⟨⟨text, _⟩, scalar, equality⟩ := Option.map_eq_some_iff.mp read
          cases equality
          obtain ⟨plain, isPlain⟩ := readsPlain_scalar scalar
          refine ⟨space ++ text, by rw [split, plain, List.append_assoc], ?_⟩
          exact (leads.append (Leads.all fun char inside =>
            Leads.plain (isPlain char inside) depth)).mono False.elim

theorem items_succ {children : Children}
    (read : parseItems (fuel + 1) input = some (children, rest)) (depth : Nat) :
    ∃ used, input = used ++ rest ∧ Leads (.inside depth) (.inside depth) used False := by
  obtain ⟨space, split, leads⟩ := Leads.skipSpace_inside input depth
  unfold parseItems at read
  split at read
  · cases read
  · rename_i first more found
    split at read
    · rename_i isEnd
      cases read
      refine ⟨space ++ [']'], ?_, ?_⟩
      · rw [split, found, isEnd]
        simp
      · exact (leads.append (Leads.plain (by decide) depth)).mono False.elim
    · split at read
      · rename_i isComma
        simp only [bind, Option.bind_eq_some_iff] at read
        obtain ⟨⟨child, between⟩, one, ⟨others, _⟩, two, equality⟩ := read
        cases equality
        obtain ⟨value, rfl, leadsValue⟩ := follows.value one depth
        obtain ⟨items, rfl, leadsItems⟩ := follows.items two depth
        refine ⟨space ++ ',' :: (value ++ items), ?_, ?_⟩
        · rw [split, found, isComma]
          simp
        · exact (leads.append ((Leads.plain (by decide) depth).cons
            (leadsValue.append leadsItems))).mono False.elim
      · cases read

theorem members_succ {children : Children}
    (read : parseMembers (fuel + 1) input = some (children, rest)) (depth : Nat) :
    ∃ body, input = body ++ '}' :: rest ∧
      Leads (.inside depth) (.inside depth) body
        (∃ key, 'y' ∈ key.toList ∧ (children.find? key).isSome = true) := by
  obtain ⟨space, split, leads⟩ := Leads.skipSpace_inside input depth
  unfold parseMembers at read
  split at read
  · cases read
  · rename_i first more found
    split at read
    · rename_i isEnd
      cases read
      refine ⟨space, by rw [split, found, isEnd], leads.mono ?_⟩
      rintro ⟨key, _, isMember⟩
      cases isMember
    · split at read
      · rename_i isComma
        simp only [bind, Option.bind_eq_some_iff] at read
        obtain ⟨⟨key, _⟩, zero, ⟨child, _⟩, one, ⟨others, _⟩, two, equality⟩ := read
        cases equality
        obtain ⟨body, rfl, leadsBody⟩ := follows.member zero one two depth
        refine ⟨space ++ ',' :: body, ?_, ?_⟩
        · rw [split, found, isComma]
          simp
        · exact (leads.append ((Leads.plain (by decide) depth).cons leadsBody)).mono
            fun given => Or.inr (Or.inr given)
      · cases read

end Follows

theorem follows (fuel : Nat) : Follows fuel := by
  induction fuel with
  | zero =>
      constructor
      · intro input tree rest read
        cases read
      · intro input children rest read
        cases read
      · intro input children rest read
        cases read
  | succ fuel ih => exact ⟨ih.value_succ, ih.items_succ, ih.members_succ⟩

theorem find?_of_parseItems {fuel : Nat} {input rest : List Char} {children : Children}
    (read : parseItems fuel input = some (children, rest)) {key : String} (named : key ≠ "") :
    children.find? key = none := by
  induction fuel generalizing input children rest with
  | zero => cases read
  | succ fuel ih =>
      unfold parseItems at read
      split at read
      · cases read
      · split at read
        · cases read
          rfl
        · split at read
          · simp only [bind, Option.bind_eq_some_iff] at read
            obtain ⟨⟨child, _⟩, _, ⟨others, _⟩, two, equality⟩ := read
            cases equality
            rw [Children.find?, if_neg (Ne.symm named)]
            exact ih two
          · cases read

theorem object_of_parse {fuel : Nat} {input rest : List Char} {tree : Ptree}
    (read : parse (fuel + 1) input = some (tree, rest)) {key : String}
    (spelled : 'y' ∈ key.toList) (isMember : (tree.find? key).isSome = true) :
    ∃ body, skipSpace input = '{' :: (body ++ '}' :: rest) ∧
      ∀ depth, Leads (.inside depth) (.inside depth) body True := by
  have named : key ≠ "" := by
    rintro rfl
    cases spelled
  unfold parse at read
  split at read
  · cases read
  · rename_i first more found
    split at read
    · obtain ⟨⟨text, _⟩, _, equality⟩ := Option.map_eq_some_iff.mp read
      cases equality
      cases isMember
    · split at read
      · split at read
        · cases read
          cases isMember
        · simp only [bind, Option.bind_eq_some_iff] at read
          obtain ⟨⟨child, _⟩, _, ⟨others, _⟩, two, equality⟩ := read
          cases equality
          rw [Ptree.find?, Ptree.children_node, Children.find?, if_neg (Ne.symm named),
            find?_of_parseItems two named] at isMember
          cases isMember
      · split at read
        · rename_i isBrace
          split at read
          · cases read
            cases isMember
          · simp only [bind, Option.bind_eq_some_iff] at read
            obtain ⟨⟨name, _⟩, zero, ⟨child, _⟩, one, ⟨others, _⟩, two, equality⟩ := read
            cases equality
            obtain ⟨body, rfl, _⟩ := (follows fuel).member zero one two 0
            refine ⟨body, by rw [found, isBrace], ?_⟩
            intro depth
            obtain ⟨body', same, leads⟩ := (follows fuel).member zero one two depth
            obtain rfl := List.append_cancel_right same
            exact leads.mono fun _ => ⟨key, spelled, isMember⟩
        · obtain ⟨⟨text, _⟩, _, equality⟩ := Option.map_eq_some_iff.mp read
          cases equality
          cases isMember

/-- A tree that is read with such a key comes from the text of one object. -/
theorem isObject_of_parseRoot {input : List Char} {tree : Ptree}
    (read : parseRoot input = some tree) {key : String} (spelled : 'y' ∈ key.toList)
    (isMember : (tree.find? key).isSome = true) : JsonScan.IsObject (encodeChars input) := by
  unfold parseRoot at read
  split at read
  · cases read
  · rename_i other rest parsed
    split at read
    · rename_i blank
      cases read
      obtain ⟨body, opens, leads⟩ := object_of_parse parsed spelled isMember
      obtain ⟨space, split, before⟩ := Leads.skipSpace_between input
      obtain ⟨tail, split', behind⟩ := Leads.skipSpace_between rest
      rw [blank, List.append_nil] at split'
      obtain ⟨first, start, _⟩ := before 0 false
      obtain ⟨seen, inner, keeps⟩ := leads 0 0 first
      obtain ⟨after, ends, keeps'⟩ := behind 1 seen
      have openBrace : State.step ⟨.between, 0, first⟩ JsonScan.openBrace =
          ⟨.inside 0, 0, first⟩ := rfl
      have closeBrace : State.step ⟨.inside 0, 0, seen⟩ JsonScan.closeBrace =
          ⟨.between, 1, seen⟩ := rfl
      have scanned : State.start.run (encodeChars input) = ⟨.between, 1, after⟩ := by
        rw [split, opens, split', encodeChars_append, State.run_append, State.start, start,
          encodeChars_cons, show String.utf8EncodeChar '{' = [JsonScan.openBrace] by decide,
          State.run_append, State.run_cons, openBrace, State.run_nil, encodeChars_append,
          State.run_append, inner, encodeChars_cons,
          show String.utf8EncodeChar '}' = [JsonScan.closeBrace] by decide, State.run_append,
          State.run_cons, closeBrace, State.run_nil, ends]
      constructor
      · rw [scanned]
      · rw [scanned]
      · rw [scanned]
        exact keeps' (Or.inl (keeps (Or.inr trivial)))
    · cases read

/-! Fuel, and space in front. -/

/-- What is read with some fuel is read with more. -/
structure Steady (fuel : Nat) : Prop where
  value : ∀ {input result}, parse fuel input = some result → parse (fuel + 1) input = some result
  items : ∀ {input result}, parseItems fuel input = some result →
    parseItems (fuel + 1) input = some result
  members : ∀ {input result}, parseMembers fuel input = some result →
    parseMembers (fuel + 1) input = some result

namespace Steady

variable {fuel : Nat} (steady : Steady fuel) {input : List Char}

include steady

theorem value_succ {result : Ptree × List Char} (read : parse (fuel + 1) input = some result) :
    parse (fuel + 1 + 1) input = some result := by
  rw [parse] at read ⊢
  split at read
  · cases read
  · rename_i first rest found
    simp only
    split at read
    · rename_i isMark
      rw [if_pos isMark]
      exact read
    · rename_i noMark
      rw [if_neg noMark]
      split at read
      · rename_i isBracket
        rw [if_pos isBracket]
        split at read
        · rename_i isEmpty
          rw [if_pos isEmpty]
          exact read
        · rename_i filled
          rw [if_neg filled]
          simp only [bind, Option.bind_eq_some_iff] at read ⊢
          obtain ⟨child, one, children, two, same⟩ := read
          exact ⟨child, steady.value one, children, steady.items two, same⟩
      · rename_i noBracket
        rw [if_neg noBracket]
        split at read
        · rename_i isBrace
          rw [if_pos isBrace]
          split at read
          · rename_i isEmpty
            rw [if_pos isEmpty]
            exact read
          · rename_i filled
            rw [if_neg filled]
            simp only [bind, Option.bind_eq_some_iff] at read ⊢
            obtain ⟨key, zero, child, one, children, two, same⟩ := read
            exact ⟨key, zero, child, steady.value one, children, steady.members two, same⟩
        · rename_i noBrace
          rw [if_neg noBrace]
          exact read

theorem items_succ {result : Children × List Char}
    (read : parseItems (fuel + 1) input = some result) :
    parseItems (fuel + 1 + 1) input = some result := by
  rw [parseItems] at read ⊢
  split at read
  · cases read
  · rename_i first rest found
    simp only
    split at read
    · rename_i isEnd
      rw [if_pos isEnd]
      exact read
    · rename_i more
      rw [if_neg more]
      split at read
      · rename_i isComma
        rw [if_pos isComma]
        simp only [bind, Option.bind_eq_some_iff] at read ⊢
        obtain ⟨child, one, children, two, same⟩ := read
        exact ⟨child, steady.value one, children, steady.items two, same⟩
      · cases read

theorem members_succ {result : Children × List Char}
    (read : parseMembers (fuel + 1) input = some result) :
    parseMembers (fuel + 1 + 1) input = some result := by
  rw [parseMembers] at read ⊢
  split at read
  · cases read
  · rename_i first rest found
    simp only
    split at read
    · rename_i isEnd
      rw [if_pos isEnd]
      exact read
    · rename_i more
      rw [if_neg more]
      split at read
      · rename_i isComma
        rw [if_pos isComma]
        simp only [bind, Option.bind_eq_some_iff] at read ⊢
        obtain ⟨key, zero, child, one, children, two, same⟩ := read
        exact ⟨key, zero, child, steady.value one, children, steady.members two, same⟩
      · cases read

end Steady

theorem steady (fuel : Nat) : Steady fuel := by
  induction fuel with
  | zero =>
      constructor
      · intro input result read
        cases read
      · intro input result read
        cases read
      · intro input result read
        cases read
  | succ fuel ih => exact ⟨ih.value_succ, ih.items_succ, ih.members_succ⟩

theorem parse_space {char : Char} (space : isSpace char = true) (fuel : Nat) (input : List Char) :
    parse (fuel + 1) (char :: input) = parse (fuel + 1) input := by
  rw [parse, parse, skipSpace, skipSpace, List.dropWhile_cons_of_pos space]

theorem parseRoot_space {char : Char} (space : isSpace char = true) {input : List Char}
    {tree : Ptree} (read : parseRoot input = some tree) :
    parseRoot (char :: input) = some tree := by
  unfold parseRoot at read ⊢
  split at read
  · cases read
  · rename_i other rest parsed
    rw [List.length_cons, parse_space space, (steady _).value parsed]
    exact read

end AndroidMessenger.Library.JsonText

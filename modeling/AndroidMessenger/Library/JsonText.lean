import Mathlib.Data.List.Basic
import AndroidMessenger.Library.PropertyTree

namespace AndroidMessenger.Library.JsonText

/-! JSON documents as property trees: every scalar becomes the text of a leaf,
and an array is a node whose children have empty keys. -/

def quotationMark : Char := Char.ofNat 34

def reverseSolidus : Char := Char.ofNat 92

def hexDigit (value : Nat) : Char :=
  if value < 10 then Char.ofNat (48 + value) else Char.ofNat (55 + value)

def hexValue (digit : Char) : Option Nat :=
  let code := digit.toNat
  if 48 ≤ code ∧ code ≤ 57 then some (code - 48)
  else if 65 ≤ code ∧ code ≤ 70 then some (code - 55)
  else if 97 ≤ code ∧ code ≤ 102 then some (code - 87)
  else none

def hexCode (first second third fourth : Char) : Option Nat := do
  let first ← hexValue first
  let second ← hexValue second
  let third ← hexValue third
  let fourth ← hexValue fourth
  return ((first * 16 + second) * 16 + third) * 16 + fourth

/-- The characters with a short escape, and the letters that stand for them. -/
def shortEscapes : List (Char × Char) :=
  [(quotationMark, quotationMark), (reverseSolidus, reverseSolidus), ('/', '/'),
    (Char.ofNat 8, 'b'), (Char.ofNat 9, 't'), (Char.ofNat 10, 'n'),
    (Char.ofNat 12, 'f'), (Char.ofNat 13, 'r')]

def shortEscape (char : Char) : Option Char :=
  (shortEscapes.find? fun pair => pair.1 = char).map Prod.snd

def shortEscaped (letter : Char) : Option Char :=
  (shortEscapes.find? fun pair => pair.2 = letter).map Prod.fst

def escape (char : Char) : List Char :=
  match shortEscape char with
  | some letter => [reverseSolidus, letter]
  | none =>
      if char.toNat < 32 then
        [reverseSolidus, 'u', '0', '0', hexDigit (char.toNat / 16),
          hexDigit (char.toNat % 16)]
      else [char]

def quote (text : String) : List Char :=
  quotationMark :: text.toList.flatMap escape ++ [quotationMark]

def isHighSurrogate (code : Nat) : Bool := 0xD800 ≤ code && code < 0xDC00

def isLowSurrogate (code : Nat) : Bool := 0xDC00 ≤ code && code < 0xE000

/-- The text up to the closing quotation mark, and what follows the mark. -/
def unquote : List Char → Option (List Char × List Char)
  | [] => none
  | char :: rest =>
      if char = quotationMark then some ([], rest)
      else if char = reverseSolidus then
        match rest with
        | [] => none
        | letter :: rest =>
            match shortEscaped letter with
            | some char => (unquote rest).map fun (text, rest) => (char :: text, rest)
            | none =>
                if letter = 'u' then
                  match rest with
                  | first :: second :: third :: fourth :: rest =>
                      match hexCode first second third fourth with
                      | none => none
                      | some high =>
                          if isHighSurrogate high then
                            match rest with
                            | solidus :: letter :: fifth :: sixth :: seventh :: eighth ::
                                rest =>
                                match hexCode fifth sixth seventh eighth with
                                | none => none
                                | some low =>
                                    if solidus = reverseSolidus ∧ letter = 'u' ∧
                                        isLowSurrogate low then
                                      (unquote rest).map fun (text, rest) =>
                                        (Char.ofNat (0x10000 + (high - 0xD800) * 0x400 +
                                          (low - 0xDC00)) :: text, rest)
                                    else none
                            | _ => none
                          else if isLowSurrogate high then none
                          else (unquote rest).map fun (text, rest) =>
                            (Char.ofNat high :: text, rest)
                  | _ => none
                else none
      else (unquote rest).map fun (text, rest) => (char :: text, rest)

theorem hexValue_hexDigit : ∀ value < 16, hexValue (hexDigit value) = some value := by
  decide

theorem shortEscaped_of_shortEscape {char letter : Char}
    (h : shortEscape char = some letter) : shortEscaped letter = some char := by
  have inverse : ∀ pair ∈ shortEscapes, shortEscaped pair.2 = some pair.1 := by decide
  obtain ⟨pair, hfound, rfl⟩ := Option.map_eq_some_iff.mp h
  have same : pair.1 = char := by simpa using List.find?_some hfound
  rw [← same]
  exact inverse pair (List.mem_of_find?_eq_some hfound)

theorem not_special_of_shortEscape {char : Char} (h : shortEscape char = none) :
    char ≠ quotationMark ∧ char ≠ reverseSolidus := by
  constructor
  · intro same
    subst same
    revert h
    decide
  · intro same
    subst same
    revert h
    decide

theorem mark_ne_solidus : reverseSolidus ≠ quotationMark := by decide

theorem unquote_mark (rest : List Char) :
    unquote (quotationMark :: rest) = some ([], rest) := by
  rw [unquote.eq_def]
  simp only [if_true]

theorem unquote_plain {char : Char} (hmark : char ≠ quotationMark)
    (hsolidus : char ≠ reverseSolidus) (rest : List Char) :
    unquote (char :: rest) =
      (unquote rest).map fun (text, rest) => (char :: text, rest) := by
  rw [unquote.eq_def]
  simp only [hmark, hsolidus, if_false]

theorem unquote_short {char letter : Char} (h : shortEscaped letter = some char)
    (rest : List Char) :
    unquote (reverseSolidus :: letter :: rest) =
      (unquote rest).map fun (text, rest) => (char :: text, rest) := by
  rw [unquote.eq_def]
  simp only [mark_ne_solidus, if_false, if_true, h]

theorem unquote_code {first second third fourth : Char} {code : Nat}
    (hcode : hexCode first second third fourth = some code)
    (hhigh : isHighSurrogate code = false) (hlow : isLowSurrogate code = false)
    (rest : List Char) :
    unquote (reverseSolidus :: 'u' :: first :: second :: third :: fourth :: rest) =
      (unquote rest).map fun (text, rest) => (Char.ofNat code :: text, rest) := by
  have hletter : shortEscaped 'u' = none := by decide
  rw [unquote.eq_def]
  simp only [mark_ne_solidus, if_false, if_true, hletter, hcode, hhigh, hlow,
    Bool.false_eq_true]

theorem hexCode_control {code : Nat} (h : code < 32) :
    hexCode '0' '0' (hexDigit (code / 16)) (hexDigit (code % 16)) = some code := by
  have hzero : hexValue '0' = some 0 := by decide
  have hhigh := hexValue_hexDigit (code / 16) (by omega)
  have hlow := hexValue_hexDigit (code % 16) (by omega)
  simp only [hexCode, hzero, hhigh, hlow, bind, Option.bind, pure]
  congr 1
  omega

theorem unquote_escape (char : Char) (rest : List Char) :
    unquote (escape char ++ rest) =
      (unquote rest).map fun (text, rest) => (char :: text, rest) := by
  cases hshort : shortEscape char with
  | some letter =>
      simp only [escape, hshort, List.cons_append, List.nil_append]
      exact unquote_short (shortEscaped_of_shortEscape hshort) rest
  | none =>
      obtain ⟨hmark, hsolidus⟩ := not_special_of_shortEscape hshort
      by_cases hcontrol : char.toNat < 32
      · have hhigh : isHighSurrogate char.toNat = false := by
          simp [isHighSurrogate]
          omega
        have hlow : isLowSurrogate char.toNat = false := by
          simp [isLowSurrogate]
          omega
        simp only [escape, hshort, if_pos hcontrol, List.cons_append, List.nil_append]
        rw [unquote_code (hexCode_control hcontrol) hhigh hlow, Char.ofNat_toNat]
      · simp only [escape, hshort, if_neg hcontrol, List.cons_append, List.nil_append]
        exact unquote_plain hmark hsolidus rest

theorem unquote_escapes (text rest : List Char) :
    unquote (text.flatMap escape ++ quotationMark :: rest) = some (text, rest) := by
  induction text with
  | nil => exact unquote_mark rest
  | cons char text ih =>
      rw [List.flatMap_cons, List.append_assoc, unquote_escape, ih]
      rfl

/-! Printing.  A node without children is a string, and a node all of whose
children have empty keys is an array. -/

def allUnnamed : Children → Bool
  | .nil => true
  | .cons key _ rest => key == "" && allUnnamed rest

mutual
def print : Ptree → List Char
  | .node data .nil => quote data
  | .node _ (.cons key child rest) =>
      if allUnnamed (.cons key child rest) then
        '[' :: print child ++ printItems rest
      else '{' :: quote key ++ ':' :: print child ++ printMembers rest

def printItems : Children → List Char
  | .nil => [']']
  | .cons _ child rest => ',' :: print child ++ printItems rest

def printMembers : Children → List Char
  | .nil => ['}']
  | .cons key child rest =>
      ',' :: quote key ++ ':' :: print child ++ printMembers rest
end

/-- The root is an object whatever its keys are. -/
def printRoot (tree : Ptree) : List Char :=
  match tree.children with
  | .nil => ['{', '}']
  | .cons key child rest =>
      '{' :: quote key ++ ':' :: print child ++ printMembers rest

/-! Parsing, with fuel for the nesting and the length of the lists. -/

def isSpace (char : Char) : Bool :=
  char == ' ' || char.toNat == 9 || char.toNat == 10 || char.toNat == 13

def skipSpace (input : List Char) : List Char :=
  input.dropWhile isSpace

def isDigit (char : Char) : Bool :=
  48 ≤ char.toNat && char.toNat ≤ 57

def digits (input : List Char) : Option (List Char × List Char) :=
  match input.span isDigit with
  | ([], _) => none
  | (first :: run, rest) => some (first :: run, rest)

def integerPart (input : List Char) : Option (List Char × List Char) :=
  match input with
  | [] => none
  | first :: rest => if first = '0' then some (['0'], rest) else digits (first :: rest)

def fractionPart (input : List Char) : Option (List Char × List Char) :=
  match input with
  | [] => some ([], [])
  | first :: rest =>
      if first = '.' then (digits rest).map fun (run, rest) => ('.' :: run, rest)
      else some ([], first :: rest)

def exponentPart (input : List Char) : Option (List Char × List Char) :=
  match input with
  | [] => some ([], [])
  | first :: rest =>
      if first = 'e' ∨ first = 'E' then
        match rest with
        | [] => none
        | sign :: tail =>
            if sign = '+' ∨ sign = '-' then
              (digits tail).map fun (run, rest) => (first :: sign :: run, rest)
            else (digits rest).map fun (run, rest) => (first :: run, rest)
      else some ([], first :: rest)

def number (input : List Char) : Option (List Char × List Char) := do
  let (sign, rest) :=
    match input with
    | [] => ([], [])
    | first :: rest => if first = '-' then (['-'], rest) else ([], first :: rest)
  let (integer, rest) ← integerPart rest
  let (fraction, rest) ← fractionPart rest
  let (exponent, rest) ← exponentPart rest
  return (sign ++ integer ++ fraction ++ exponent, rest)

def literal (word input : List Char) : Option (List Char × List Char) :=
  if input.take word.length = word then some (word, input.drop word.length) else none

def scalar (input : List Char) : Option (List Char × List Char) :=
  literal ['t', 'r', 'u', 'e'] input <|> literal ['f', 'a', 'l', 's', 'e'] input <|>
    literal ['n', 'u', 'l', 'l'] input <|> number input

/-- A key with the colon behind it. -/
def parseKey (input : List Char) : Option (String × List Char) :=
  match skipSpace input with
  | [] => none
  | first :: rest =>
      if first = quotationMark then
        match unquote rest with
        | none => none
        | some (key, rest) =>
            match skipSpace rest with
            | [] => none
            | colon :: rest =>
                if colon = ':' then some (String.ofList key, rest) else none
      else none

mutual
def parse : Nat → List Char → Option (Ptree × List Char)
  | 0, _ => none
  | fuel + 1, input =>
      match skipSpace input with
      | [] => none
      | first :: rest =>
          if first = quotationMark then
            (unquote rest).map fun (text, rest) => (.leaf (String.ofList text), rest)
          else if first = '[' then
            if (skipSpace rest).head? = some ']' then
              some (.empty, (skipSpace rest).drop 1)
            else do
              let (child, rest) ← parse fuel rest
              let (children, rest) ← parseItems fuel rest
              return (.node "" (.cons "" child children), rest)
          else if first = '{' then
            if (skipSpace rest).head? = some '}' then
              some (.empty, (skipSpace rest).drop 1)
            else do
              let (key, rest) ← parseKey rest
              let (child, rest) ← parse fuel rest
              let (children, rest) ← parseMembers fuel rest
              return (.node "" (.cons key child children), rest)
          else (scalar (first :: rest)).map fun (text, rest) =>
            (.leaf (String.ofList text), rest)

def parseItems : Nat → List Char → Option (Children × List Char)
  | 0, _ => none
  | fuel + 1, input =>
      match skipSpace input with
      | [] => none
      | first :: rest =>
          if first = ']' then some (.nil, rest)
          else if first = ',' then do
            let (child, rest) ← parse fuel rest
            let (children, rest) ← parseItems fuel rest
            return (.cons "" child children, rest)
          else none

def parseMembers : Nat → List Char → Option (Children × List Char)
  | 0, _ => none
  | fuel + 1, input =>
      match skipSpace input with
      | [] => none
      | first :: rest =>
          if first = '}' then some (.nil, rest)
          else if first = ',' then do
            let (key, rest) ← parseKey rest
            let (child, rest) ← parse fuel rest
            let (children, rest) ← parseMembers fuel rest
            return (.cons key child children, rest)
          else none
end

/-- A whole document, with nothing but space behind the value. -/
def parseRoot (input : List Char) : Option Ptree :=
  match parse (input.length + 1) input with
  | none => none
  | some (tree, rest) => if skipSpace rest = [] then some tree else none

theorem skipSpace_cons {first : Char} (h : isSpace first = false) (rest : List Char) :
    skipSpace (first :: rest) = first :: rest := by
  simp [skipSpace, h]

theorem quote_append (text : String) (rest : List Char) :
    quote text ++ rest =
      quotationMark :: (text.toList.flatMap escape ++ quotationMark :: rest) := by
  simp [quote]

theorem parseKey_quote (key : String) (rest : List Char) :
    parseKey (quote key ++ ':' :: rest) = some (key, rest) := by
  have hmark : isSpace quotationMark = false := by decide
  have hcolon : isSpace ':' = false := by decide
  rw [quote_append, parseKey, skipSpace_cons hmark]
  simp only [if_true, unquote_escapes, skipSpace_cons hcolon, String.ofList_toList]

theorem print_head (tree : Ptree) :
    ∃ first rest, print tree = first :: rest ∧ isSpace first = false ∧ first ≠ ']' := by
  match tree with
  | .node data .nil =>
      exact ⟨quotationMark, _, by rw [print, quote]; rfl, by decide, by decide⟩
  | .node data (.cons key child children) =>
      rw [print]
      split
      · exact ⟨'[', _, rfl, by decide, by decide⟩
      · exact ⟨'{', _, rfl, by decide, by decide⟩

theorem head_print_append (tree : Ptree) (rest : List Char) :
    (skipSpace (print tree ++ rest)).head? ≠ some ']' := by
  obtain ⟨first, tail, hprint, hspace, hne⟩ := print_head tree
  rw [hprint, List.cons_append, skipSpace_cons hspace]
  simpa using hne

theorem head_quote_append (key : String) (rest : List Char) :
    (skipSpace (quote key ++ rest)).head? ≠ some '}' := by
  have hne : quotationMark ≠ '}' := by decide
  rw [quote_append, skipSpace_cons (by decide)]
  simpa using hne

theorem parse_object {fuel : Nat} (key : String) {child : Ptree} {children : Children}
    {childText membersText rest : List Char}
    (hchild : parse fuel (childText ++ (membersText ++ rest)) =
      some (child, membersText ++ rest))
    (hmembers : parseMembers fuel (membersText ++ rest) = some (children, rest)) :
    parse (fuel + 1) ('{' :: quote key ++ ':' :: childText ++ membersText ++ rest) =
      some (.node "" (.cons key child children), rest) := by
  have hempty := head_quote_append key (':' :: (childText ++ (membersText ++ rest)))
  simp only [List.cons_append, List.append_assoc]
  rw [parse, skipSpace_cons (by decide)]
  simp only [if_neg (show '{' ≠ quotationMark by decide),
    if_neg (show '{' ≠ '[' by decide), if_true, if_neg hempty]
  rw [parseKey_quote]
  simp only [bind, Option.bind]
  rw [hchild]
  simp only
  rw [hmembers]
  rfl

/-! Parsing undoes printing, whatever follows.  The length of the printed text
is fuel enough. -/

mutual
theorem parse_print : ∀ (tree : Ptree), tree.exclusive = true →
    ∀ (fuel : Nat) (rest : List Char), (print tree).length ≤ fuel →
      parse fuel (print tree ++ rest) = some (tree, rest)
  | .node data .nil, _, fuel, rest, hfuel => by
      rw [print] at hfuel ⊢
      cases fuel with
      | zero => simp [quote] at hfuel
      | succ fuel =>
          rw [quote_append, parse, skipSpace_cons (by decide)]
          simp only [if_true, unquote_escapes, Option.map_some, String.ofList_toList]
          rfl
  | .node data (.cons key child children), hexclusive, fuel, rest, hfuel => by
      simp only [Ptree.exclusive, Children.exclusive, Children.isEmpty, Bool.or_false,
        Bool.and_eq_true, beq_iff_eq] at hexclusive
      obtain ⟨rfl, hchild, hchildren⟩ := hexclusive
      rw [print] at hfuel ⊢
      cases fuel with
      | zero => split at hfuel <;> simp at hfuel
      | succ fuel =>
          split at hfuel
          · rename_i hunnamed
            simp only [allUnnamed, Bool.and_eq_true, beq_iff_eq] at hunnamed
            obtain ⟨rfl, hrest⟩ := hunnamed
            have hlength : (print child).length ≤ fuel ∧
                (printItems children).length ≤ fuel := by
              simp only [List.length_append, List.length_cons] at hfuel
              omega
            have hempty := head_print_append child (printItems children ++ rest)
            simp only [allUnnamed, hrest, beq_self_eq_true, Bool.and_self, if_true]
            rw [List.cons_append, List.cons_append, List.append_assoc, parse,
              skipSpace_cons (by decide)]
            simp only [if_neg (show '[' ≠ quotationMark by decide), if_true,
              if_neg hempty]
            rw [parse_print child hchild fuel _ hlength.1]
            simp only [bind, Option.bind]
            rw [parseItems_print children hchildren hrest fuel rest hlength.2]
            rfl
          · rename_i hnamed
            have hlength : (print child).length ≤ fuel ∧
                (printMembers children).length ≤ fuel := by
              simp only [List.length_append, List.length_cons] at hfuel
              omega
            rw [if_neg hnamed]
            exact parse_object key (parse_print child hchild fuel _ hlength.1)
              (parseMembers_print children hchildren fuel rest hlength.2)

theorem parseItems_print : ∀ (children : Children), children.exclusive = true →
    allUnnamed children = true → ∀ (fuel : Nat) (rest : List Char),
      (printItems children).length ≤ fuel →
        parseItems fuel (printItems children ++ rest) = some (children, rest)
  | .nil, _, _, fuel, rest, hfuel => by
      cases fuel with
      | zero => simp [printItems] at hfuel
      | succ fuel =>
          rw [printItems, List.cons_append, parseItems, skipSpace_cons (by decide)]
          simp only [if_true]
          rfl
  | .cons key child children, hexclusive, hunnamed, fuel, rest, hfuel => by
      simp only [Children.exclusive, Bool.and_eq_true] at hexclusive
      simp only [allUnnamed, Bool.and_eq_true, beq_iff_eq] at hunnamed
      obtain ⟨hchild, hchildren⟩ := hexclusive
      obtain ⟨rfl, hrest⟩ := hunnamed
      cases fuel with
      | zero => simp [printItems] at hfuel
      | succ fuel =>
          have hlength : (print child).length ≤ fuel ∧
              (printItems children).length ≤ fuel := by
            simp only [printItems, List.length_append, List.length_cons] at hfuel
            omega
          rw [printItems, List.cons_append, List.cons_append, List.append_assoc, parseItems,
            skipSpace_cons (by decide)]
          simp only [if_true, if_neg (show ',' ≠ ']' by decide)]
          rw [parse_print child hchild fuel _ hlength.1]
          simp only [bind, Option.bind]
          rw [parseItems_print children hchildren hrest fuel rest hlength.2]
          rfl

theorem parseMembers_print : ∀ (children : Children), children.exclusive = true →
    ∀ (fuel : Nat) (rest : List Char), (printMembers children).length ≤ fuel →
      parseMembers fuel (printMembers children ++ rest) = some (children, rest)
  | .nil, _, fuel, rest, hfuel => by
      cases fuel with
      | zero => simp [printMembers] at hfuel
      | succ fuel =>
          rw [printMembers, List.cons_append, parseMembers, skipSpace_cons (by decide)]
          simp only [if_true]
          rfl
  | .cons key child children, hexclusive, fuel, rest, hfuel => by
      simp only [Children.exclusive, Bool.and_eq_true] at hexclusive
      obtain ⟨hchild, hchildren⟩ := hexclusive
      cases fuel with
      | zero => simp [printMembers] at hfuel
      | succ fuel =>
          have hlength : (print child).length ≤ fuel ∧
              (printMembers children).length ≤ fuel := by
            simp only [printMembers, List.length_append, List.length_cons] at hfuel
            omega
          rw [printMembers]
          simp only [List.cons_append, List.append_assoc]
          rw [parseMembers, skipSpace_cons (by decide)]
          simp only [if_true, if_neg (show ',' ≠ '}' by decide)]
          rw [parseKey_quote]
          simp only [bind, Option.bind]
          rw [parse_print child hchild fuel _ hlength.1]
          simp only
          rw [parseMembers_print children hchildren fuel rest hlength.2]
          rfl
end

theorem parse_printRoot {tree : Ptree} (h : tree.Representable) {fuel : Nat}
    (rest : List Char) (hfuel : (printRoot tree).length ≤ fuel) :
    parse fuel (printRoot tree ++ rest) = some (tree, rest) := by
  obtain ⟨hdata, hchildren⟩ := h
  match tree with
  | .node data .nil =>
      obtain rfl : data = "" := hdata
      cases fuel with
      | zero => simp [printRoot] at hfuel
      | succ fuel =>
          simp only [printRoot, Ptree.children_node, List.cons_append, List.nil_append]
          rw [parse, skipSpace_cons (by decide)]
          simp only [if_neg (show '{' ≠ quotationMark by decide),
            if_neg (show '{' ≠ '[' by decide), if_true]
          rw [skipSpace_cons (by decide)]
          rfl
  | .node data (.cons key child children) =>
      obtain rfl : data = "" := hdata
      simp only [Ptree.children_node, Children.exclusive, Bool.and_eq_true] at hchildren
      obtain ⟨hchild, hrest⟩ := hchildren
      cases fuel with
      | zero => simp [printRoot] at hfuel
      | succ fuel =>
          simp only [printRoot, Ptree.children_node] at hfuel ⊢
          have hlength : (print child).length ≤ fuel ∧
              (printMembers children).length ≤ fuel := by
            simp only [List.length_append, List.length_cons] at hfuel
            omega
          exact parse_object key (parse_print child hchild fuel _ hlength.1)
            (parseMembers_print children hrest fuel rest hlength.2)

theorem parseRoot_append {tree : Ptree} (h : tree.Representable) (rest : List Char) :
    parseRoot (printRoot tree ++ rest) =
      if skipSpace rest = [] then some tree else none := by
  have hfuel : (printRoot tree).length ≤ (printRoot tree ++ rest).length + 1 := by
    rw [List.length_append]
    omega
  simp only [parseRoot, parse_printRoot h rest hfuel]

theorem parseRoot_printRoot {tree : Ptree} (h : tree.Representable)
    {space : List Char} (hspace : skipSpace space = []) :
    parseRoot (printRoot tree ++ space) = some tree := by
  rw [parseRoot_append h, if_pos hspace]

theorem getLast?_printMembers (children : Children) :
    (printMembers children).getLast? = some '}' :=
  match children with
  | .nil => rfl
  | .cons key child rest => by
      rw [printMembers, List.getLast?_append, getLast?_printMembers rest]
      rfl

theorem getLast?_printRoot (tree : Ptree) : (printRoot tree).getLast? = some '}' := by
  rw [printRoot]
  cases tree.children with
  | nil => rfl
  | cons key child rest =>
      simp only
      rw [List.getLast?_append, getLast?_printMembers rest]
      rfl

theorem skipSpace_printRoot (tree : Ptree) (rest : List Char) :
    skipSpace (printRoot tree ++ rest) ≠ [] := by
  rw [printRoot]
  cases tree.children with
  | nil =>
      simp only [List.cons_append]
      rw [skipSpace_cons (by decide)]
      exact List.cons_ne_nil _ _
  | cons key child children =>
      simp only [List.cons_append]
      rw [skipSpace_cons (by decide)]
      exact List.cons_ne_nil _ _

end AndroidMessenger.Library.JsonText

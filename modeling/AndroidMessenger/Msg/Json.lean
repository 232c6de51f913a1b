import AndroidMessenger.Library.LastOccurrence
import AndroidMessenger.Msg.Codecs

namespace AndroidMessenger.Msg.Json

open Library

def newline : UInt8 := 10

def closingBrace : UInt8 := 125

/-- The cleaning at the head of `json::from`. -/
def clean (input : Bytes) : Bytes :=
  let cpy :=
    match rfind newline input with
    | some idx => input.take (idx + 1)
    | none => input
  match rfind closingBrace cpy with
  | some lastBraceIdx =>
      if lastBraceIdx ≠ cpy.length - 1 then cpy.take (lastBraceIdx + 1) else cpy
  | none => cpy

def fromText (codecs : Codecs) (input : Bytes) : Except Exn Ptree :=
  match codecs.readJson (clean input) with
  | some ptree => .ok ptree
  | none => .error .jsonParserError

def toText (codecs : Codecs) (ptree : Ptree) (pretty : Bool) : Except Exn String :=
  match codecs.writeJson ptree pretty with
  | some text => .ok text
  | none => .error .jsonParserError

/-- The test that skips the second cut only skips a cut that removes nothing. -/
theorem clean_eq (input : Bytes) :
    clean input = eraseAfterLast closingBrace (eraseAfterLast newline input) := by
  have hfirst : (match rfind newline input with
      | some idx => input.take (idx + 1)
      | none => input) = eraseAfterLast newline input := rfl
  rw [clean, hfirst]
  generalize eraseAfterLast newline input = cpy
  cases hfound : rfind closingBrace cpy with
  | none => simp [eraseAfterLast, hfound]
  | some lastBraceIdx =>
      obtain ⟨initial, rest, hcpy, _, hindex⟩ := exists_of_rfind_eq_some hfound
      have hlength : 0 < cpy.length := by
        rw [hcpy, List.length_append, List.length_cons]
        omega
      simp only [eraseAfterLast, hfound]
      split
      · rfl
      · rename_i hlast
        have htake : cpy.length ≤ lastBraceIdx + 1 := by omega
        exact (List.take_of_length_le htake).symm

/-- A document that ends in its closing brace and has no newline survives the
cleaning exactly when no brace of what follows it is kept by the first cut. -/
theorem clean_append_eq_iff {document residue : Bytes}
    (hbrace : document.getLast? = some closingBrace)
    (hline : newline ∉ document) :
    clean (document ++ residue) = document ↔
      closingBrace ∉ eraseAfterLast newline residue := by
  have hfirst : eraseAfterLast newline (document ++ residue) =
      document ++ eraseAfterLast newline residue := by
    by_cases hmem : newline ∈ residue
    · exact eraseAfterLast_append_of_mem document hmem
    · rw [eraseAfterLast_of_notMem hmem, eraseAfterLast_of_notMem]
      simp [hline, hmem]
  obtain ⟨initial, rfl⟩ : ∃ initial, document = initial ++ [closingBrace] :=
    List.getLast?_eq_some_iff.mp hbrace
  rw [clean_eq, hfirst]
  constructor
  · intro hclean hmem
    rw [eraseAfterLast_append_of_mem _ hmem] at hclean
    have hempty : eraseAfterLast closingBrace (eraseAfterLast newline residue) = [] := by
      simpa using hclean
    have hkept := mem_eraseAfterLast_iff.mpr hmem
    rw [hempty] at hkept
    exact List.not_mem_nil hkept
  · intro hmem
    rw [eraseAfterLast_append_of_notMem _ (by simp) hmem]
    exact eraseAfterLast_concat closingBrace initial

/-- What follows the closing brace is cut off whole if it has a newline and no brace,
however many lines the document has. -/
theorem clean_append {document residue : Bytes}
    (hbrace : document.getLast? = some closingBrace) (hline : newline ∈ residue)
    (hclear : closingBrace ∉ residue) : clean (document ++ residue) = document := by
  obtain ⟨initial, rfl⟩ : ∃ initial, document = initial ++ [closingBrace] :=
    List.getLast?_eq_some_iff.mp hbrace
  have hrest : closingBrace ∉ eraseAfterLast newline residue := fun hmem =>
    hclear ((eraseAfterLast_prefix_self newline residue).subset hmem)
  rw [clean_eq, eraseAfterLast_append_of_mem _ hline,
    eraseAfterLast_append_of_notMem _ (by simp) hrest]
  exact eraseAfterLast_concat closingBrace initial

theorem clean_line {document : Bytes} (hbrace : document.getLast? = some closingBrace) :
    clean (document ++ [newline]) = document :=
  clean_append hbrace List.mem_cons_self (by decide)

theorem exists_toText (codecs : Codecs) {ptree : Ptree}
    (h : ptree.Representable) (pretty : Bool) :
    ∃ text, toText codecs ptree pretty = .ok text := by
  obtain ⟨text, htext⟩ := codecs.exists_writeJson h pretty
  exact ⟨text, by simp [toText, htext]⟩

end AndroidMessenger.Msg.Json

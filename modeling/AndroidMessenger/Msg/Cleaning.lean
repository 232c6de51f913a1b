import AndroidMessenger.Msg.Compact
import AndroidMessenger.Msg.Json

namespace AndroidMessenger.Msg.Json

open Library

/-! The cleaning of `json::from` on a document with a residue behind its line. -/

theorem clean_of_newline {document : Bytes}
    (hbrace : document.getLast? = some closingBrace) (hline : newline ∈ document) :
    clean document ≠ document := by
  obtain ⟨initial, rfl⟩ : ∃ initial, document = initial ++ [closingBrace] :=
    List.getLast?_eq_some_iff.mp hbrace
  have hinitial : newline ∈ initial := by
    rcases List.mem_append.mp hline with hinitial | hlast
    · exact hinitial
    · exact absurd (List.mem_singleton.mp hlast) (by decide)
  intro hclean
  rw [clean_eq, eraseAfterLast_append_of_notMem initial hinitial (by decide)] at hclean
  have hshort := congrArg List.length hclean
  have hfirst := (eraseAfterLast_prefix_self newline initial).length_le
  have hsecond :=
    (eraseAfterLast_prefix_self closingBrace (eraseAfterLast newline initial)).length_le
  rw [List.length_append, List.length_singleton] at hshort
  omega

theorem clean_line_eq_iff {document : Bytes}
    (hbrace : document.getLast? = some closingBrace) (hline : newline ∉ document)
    (residue : Bytes) :
    clean (document ++ newline :: residue) = document ↔
      ∀ front back, residue = front ++ newline :: back → closingBrace ∉ front := by
  rw [clean_append_eq_iff hbrace hline,
    mem_eraseAfterLast_iff_before (by decide) List.mem_cons_self]
  constructor
  · intro hnone front back hresidue hfront
    apply hnone
    refine ⟨newline :: front, back, ?_, List.mem_cons_of_mem _ hfront⟩
    rw [hresidue, List.cons_append]
  · intro hnone given
    rcases given with ⟨front, back, hsplit, hfront⟩
    cases front with
    | nil => exact List.not_mem_nil hfront
    | cons head front =>
        obtain ⟨rfl, hresidue⟩ := List.cons.inj hsplit
        rcases List.mem_cons.mp hfront with hhead | hfront
        · exact absurd hhead (by decide)
        · exact hnone front back hresidue hfront

/-- Of the document alone, and of the document with a newline and a residue behind it,
the cleaning leaves the document, so that both are read as it. -/
structure CutsResidueOnly (codecs : Codecs) (json : Ptree) (document residue : Bytes) :
    Prop where
  alone : fromText codecs document = .ok json
  followed : fromText codecs (document ++ newline :: residue) = .ok json
  keepsAlone : clean document = document
  keepsFollowed : clean (document ++ newline :: residue) = document

/-- The residue and only the residue is cut off exactly when the document is one line
and no brace of the residue has a newline behind it. -/
theorem cutsResidueOnly_iff (codecs : Codecs) {json : Ptree} {document : Bytes}
    (accepted : codecs.readJson document = some json)
    (hbrace : document.getLast? = some closingBrace) (residue : Bytes) :
    CutsResidueOnly codecs json document residue ↔
      newline ∉ document ∧
        ∀ front back, residue = front ++ newline :: back → closingBrace ∉ front := by
  constructor
  · intro cuts
    have hline : newline ∉ document := fun hline =>
      clean_of_newline hbrace hline cuts.keepsAlone
    exact ⟨hline, (clean_line_eq_iff hbrace hline residue).mp cuts.keepsFollowed⟩
  · intro given
    rcases given with ⟨hline, hresidue⟩
    have halone : clean document = document := by
      have hempty := @clean_append_eq_iff document [] hbrace hline
      rw [List.append_nil] at hempty
      exact hempty.mpr (by decide)
    have hfollowed := (clean_line_eq_iff hbrace hline residue).mpr hresidue
    refine ⟨?_, ?_, halone, hfollowed⟩
    · simp [fromText, halone, accepted]
    · simp [fromText, hfollowed, accepted]

/-! The empty object, on one line and on two. -/

def oneLine : Bytes := [123, 125]

def twoLines : Bytes := [123, newline, 125]

theorem cutsResidueOnly_oneLine :
    CutsResidueOnly Codecs.compact .empty oneLine [closingBrace] ↔
      newline ∉ oneLine ∧
        ∀ front back, [closingBrace] = front ++ newline :: back → closingBrace ∉ front :=
  cutsResidueOnly_iff Codecs.compact (by decide +kernel) (by decide) [closingBrace]

theorem closing_line_is_cut_off :
    Codecs.compact.readJson twoLines = some .empty ∧
      twoLines.getLast? = some closingBrace ∧
      fromText Codecs.compact twoLines ≠ .ok .empty ∧
      ¬ CutsResidueOnly Codecs.compact .empty twoLines [] := by
  have cut : fromText Codecs.compact twoLines ≠ .ok .empty := by decide +kernel
  refine ⟨by decide +kernel, by decide, cut, ?_⟩
  intro cuts
  exact cut cuts.alone

end AndroidMessenger.Msg.Json

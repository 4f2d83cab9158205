import TutorialPages.Proofs.Json.Indentation
import TutorialPages.Proofs.Page.Decoding
import TutorialPages.Proofs.Text.Utf8

/-!
# The two texts of a document

A document is handed on in a compact text or in an indented one. They differ only in the spaces and
line feeds between their tokens, so whoever reads one of them reads the other.
-/

namespace TutorialPages.Document

/-- The indented text of a document is UTF-8 as it is written. Without the spaces and line feeds
outside of its quoted texts it is the compact text. Both hold the same tokens, the quoted texts
among them; both are read as the same value, and the document is decoded from either. -/
theorem indented_compact (document : Document) :
    Text.ofUtf8? (Text.toUtf8 document.indented) = some document.indented ∧
    Json.squeeze .outside document.indented = document.compact ∧
    Json.scan? .between document.indented = some document.toJson.tokens ∧
    Json.scan? .between document.compact = some document.toJson.tokens ∧
    Json.read? document.indented = some document.toJson ∧
    Json.read? document.compact = some document.toJson ∧
    decode? document.indented = some document ∧
    decode? document.compact = some document := by
  have hindented : Json.read? document.indented = some document.toJson :=
    Json.read?_indented document.toJson
  have hcompact : Json.read? document.compact = some document.toJson :=
    Json.read?_compact document.toJson
  have hdecode : ∀ text : Text, Json.read? text = some document.toJson →
      decode? text = some document := by
    intro text hread
    rw [decode?, hread, Option.bind_some, ofJson?_toJson]
  exact ⟨Text.ofUtf8?_toUtf8 document.indented, Json.squeeze_indented document.toJson,
    Json.scan?_indented_eq document.toJson, Json.scan?_compact_eq document.toJson, hindented,
    hcompact, hdecode _ hindented, hdecode _ hcompact⟩

end TutorialPages.Document

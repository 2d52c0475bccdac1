/-
  ImageIntake.Phase

  The phases an import goes through, and the kinds of content it is told to
  expect.
-/

import ImageIntake.Vocabulary

namespace ImageIntake

/-! ## Phases -/

/-- What a source operation tells the driver to do next. -/
inductive Phase where
  | info
  | transferDataFile
  | convert
  | resize
  | error
  | done
deriving DecidableEq, Repr

/-- The phases by name. -/
def Phase.vocabulary : Vocabulary Phase where
  title := "ProcessingPhase"
  terms := [
    ⟨.info, "INFO", "Info"⟩,
    ⟨.transferDataFile, "TRANSFER_DATA_FILE", "TransferDataFile"⟩,
    ⟨.convert, "CONVERT", "Convert"⟩,
    ⟨.resize, "RESIZE", "Resize"⟩,
    ⟨.error, "ERROR", "Error"⟩,
    ⟨.done, "DONE", "Done"⟩]

/-- The word of a phase. -/
def Phase.word (phase : Phase) : String := Phase.vocabulary.word phase

/-! ## Content types -/

/-- The declared content of an endpoint. -/
inductive ContentType where
  | kubevirt
  | archive
deriving DecidableEq, Repr

/-- The content types by name. -/
def ContentType.vocabulary : Vocabulary ContentType where
  title := "DataVolumeContentType"
  terms := [⟨.kubevirt, "KUBEVIRT", "kubevirt"⟩, ⟨.archive, "ARCHIVE", "archive"⟩]

end ImageIntake

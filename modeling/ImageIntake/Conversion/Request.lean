/-
  ImageIntake.Conversion.Request

  A request to convert a remote image: where it comes from, where it goes, and
  the filters and the source plugin of nbdkit it passes through.
-/

import ImageIntake.Endpoint

namespace ImageIntake

/-! ## Filters and plugins -/

/-- Filters of nbdkit in front of the source plugin. -/
inductive Filter where
  | xz
  | gzip
deriving DecidableEq, Repr

/-- The filters by name. -/
def Filter.vocabulary : Vocabulary Filter where
  title := "NbdkitFilter"
  terms := [⟨.xz, "XZ", "xz"⟩, ⟨.gzip, "GZIP", "gzip"⟩]

/-- The name of a filter. -/
def Filter.word (filter : Filter) : String := Filter.vocabulary.word filter

/-- Source plugins of nbdkit. -/
inductive Plugin where
  | curl
deriving DecidableEq, Repr

/-- The plugins by name. -/
def Plugin.vocabulary : Vocabulary Plugin where
  title := "NbdkitPlugin"
  terms := [⟨.curl, "CURL", "curl"⟩]

/-- The name of a plugin. -/
def Plugin.word (plugin : Plugin) : String := Plugin.vocabulary.word plugin

/-! ## Requests -/

namespace Conversion

/-- A request; its destination is never empty. -/
structure Request where
  source : Url
  dest : String
  /-- Filters in the order of the pipeline. -/
  filters : List Filter
  /-- Only the first plugin is used, and `curl` if there is none. -/
  plugins : List Plugin
  /-- The directory that holds the certificate to trust. -/
  certDir : Option String
  /-- Keys that are put into a source without credentials. -/
  accessKey : Option String
  secretKey : Option String
  dest_ne_empty : dest ≠ ""

namespace Request

/-- The plainest request for a source and a destination. -/
def make (source : Url) (dest : String) : Except Fault Request :=
  if h : dest = "" then .error (.value "conversion destination must not be empty")
  else .ok {
    source, dest, filters := [], plugins := [], certDir := none, accessKey := none,
    secretKey := none, dest_ne_empty := h }

/-- The request with one more filter, the last of the pipeline. -/
def addFilter (r : Request) (filter : Filter) : Request :=
  { r with filters := r.filters ++ [filter] }

/-- The locator that is handed to nbdkit: keys are used only where the source has no user
information. -/
def effectiveUrl (r : Request) : Except Fault Url :=
  if r.source.userinfo ≠ "" then .ok r.source else r.source.withKeys r.accessKey r.secretKey

/-- The source plugin in use. -/
def plugin (r : Request) : Plugin := r.plugins.headD .curl

end Request

end Conversion

end ImageIntake

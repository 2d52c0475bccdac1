/-
  ImageIntake.Url.Join

  References against a base: resolving a reference text, filling parts of a
  locator in, and the locator that a request goes to.
-/

import ImageIntake.Url.Parser

namespace ImageIntake.Url

open ImageIntake.Number

/-! ## Schemes -/

/-- Schemes whose locators resolve relative references. -/
def relativeSchemes : List String :=
  ["", "ftp", "http", "gopher", "nntp", "imap", "wais", "file", "https", "shttp", "mms",
    "prospero", "rtsp", "rtspu", "sftp", "svn", "svn+ssh", "ws", "wss"]

/-- Schemes whose locators have an authority. -/
def authoritySchemes : List String :=
  ["", "ftp", "http", "gopher", "nntp", "telnet", "imap", "wais", "file", "mms", "https", "shttp",
    "snews", "prospero", "rtsp", "rtspu", "rsync", "svn", "svn+ssh", "sftp", "nfs", "git",
    "git+ssh", "ws", "wss"]

/-- Schemes whose last path segment may carry parameters behind a semicolon. -/
def parameterSchemes : List String :=
  ["", "ftp", "hdl", "prospero", "http", "imap", "https", "shttp", "rtsp", "rtspu", "sip", "sips",
    "mms", "sftp", "tel"]

/-! ## Parts of a reference -/

/-- A reference in parts; absent parts are empty. -/
structure Reference where
  scheme : String
  authority : List Char
  path : List Char
  parameters : List Char
  query : List Char
  fragment : List Char

/-- A path and the parameters behind the first semicolon of its last segment. -/
def splitParameters (path : List Char) : List Char × List Char :=
  let last := (path.reverse.takeWhile (· ≠ '/')).reverse
  match splitAtChar ';' last with
  | (_, none) => (path, [])
  | (before, some after) => (path.take (path.length - last.length) ++ before, after)

/-- Reads a reference; one without a scheme has the given one. -/
def Reference.read (scheme : String) (cs : List Char) : Reference :=
  let parts := cut cs
  let scheme := if parts.scheme.isEmpty then scheme
    else Text.asciiLower (String.ofList parts.scheme)
  let (path, parameters) :=
    if parameterSchemes.contains scheme then splitParameters parts.path else (parts.path, [])
  { scheme
    authority := parts.authority
    path
    parameters
    query := parts.query.getD []
    fragment := parts.fragment.getD [] }

/-- The text of a reference. -/
def Reference.write (r : Reference) : List Char :=
  let path := if r.parameters.isEmpty then r.path else r.path ++ ';' :: r.parameters
  let rooted := if path.isEmpty || path.head? = some '/' then path else '/' :: path
  let hasAuthority := !r.authority.isEmpty ||
    (r.scheme ≠ "" && authoritySchemes.contains r.scheme) || ['/', '/'].isPrefixOf path
  (if r.scheme = "" then [] else r.scheme.toList ++ [':']) ++
  (if hasAuthority then '/' :: '/' :: r.authority ++ rooted else path) ++
  (if r.query.isEmpty then [] else '?' :: r.query) ++
  (if r.fragment.isEmpty then [] else '#' :: r.fragment)

/-! ## Resolution -/

/-- The segments of a path resolved against the path of the base. -/
def mergedSegments (base path : List Char) : List (List Char) :=
  if path.head? = some '/' then path.splitOn '/'
  else
    let baseSegments := base.splitOn '/'
    let directory := if baseSegments.getLast? = some [] then baseSegments else baseSegments.dropLast
    -- Empty segments are dropped, save the first and the last.
    let segments := directory ++ path.splitOn '/'
    segments.take 1 ++ ((segments.drop 1).dropLast.filter fun s => !s.isEmpty) ++
      (segments.drop 1).getLast?.toList

/-- Follows one segment: two dots take the last one away. -/
def resolveSegment (out : List (List Char)) (segment : List Char) : List (List Char) :=
  if segment = ['.', '.'] then out.dropLast
  else if segment = ['.'] then out
  else out ++ [segment]

/-- A path without dot segments; one that ends in them ends in a slash. -/
def resolveSegments (segments : List (List Char)) : List Char :=
  let resolved := segments.foldl resolveSegment []
  let last := segments.getLastD []
  let whole := if last = ['.'] ∨ last = ['.', '.'] then resolved ++ [[]] else resolved
  let path := List.intercalate ['/'] whole
  if path.isEmpty then ['/'] else path

/-- Resolves a reference text against a base text. -/
def resolve (base reference : List Char) : List Char :=
  if base.isEmpty then reference
  else if reference.isEmpty then base
  else
    let b := Reference.read "" base
    let r := Reference.read b.scheme reference
    if r.scheme ≠ b.scheme ∨ !relativeSchemes.contains r.scheme then reference
    else if authoritySchemes.contains r.scheme && !r.authority.isEmpty then r.write
    else
      let r := if authoritySchemes.contains r.scheme then { r with authority := b.authority } else r
      -- A reference without a path keeps that of the base, and its query unless it has one.
      if r.path.isEmpty && r.parameters.isEmpty then
        { r with
          path := b.path
          parameters := b.parameters
          query := if r.query.isEmpty then b.query else r.query }.write
      else { r with path := resolveSegments (mergedSegments b.path r.path) }.write

/-- A locator resolved against another. -/
def join (base reference : Url) : Except Defect Url :=
  parse (String.ofList (resolve base.print.toList reference.print.toList))

/-! ## Changing parts -/

/-- Whether a locator lacks a scheme or a host. -/
def isRelative (url : Url) : Bool :=
  url.scheme = "" || url.host = ""

/-- The same locator with another host, given in Unicode. -/
def withHost (url : Url) (host : String) : Except Defect Url :=
  let cs := host.toList
  let bracketed :=
    if cs.contains ':' && !(cs.head? = some '[' && cs.getLast? = some ']') then '[' :: cs ++ [']']
    else cs
  if Url.isReadable bracketed then reread url.rawParts fun auth => { auth with host := bracketed }
  else .error .text

/-- The same locator with another fragment. -/
def withFragment (url : Url) (fragment : String) : Except Defect Url :=
  reread { url.rawParts with fragment := some fragment.toList } id

/-- The fragment, unescaped; an absent one is empty. -/
def plainFragment (url : Url) : String :=
  Text.percentDecode (url.fragment.getD "")

/-- The locator that a request for another goes to: a relative one keeps only its path, from the
root, and its query. -/
def requestTarget (url : Url) : Except Defect Url :=
  if url.isRelative then
    reread {
      path := '/' :: url.path.toList.dropWhile (· = '/')
      query := url.query.map String.toList } id
  else .ok url

end ImageIntake.Url

import A3sBox.Lib.MultiMap
import A3sBox.Lib.Str

/-
  The request types of the `http` crate (version 1) that a proxy reads and rewrites, and
  the crate's functions that it calls.

  Model. A `HeaderName` is its text, in lowercase as the crate stores every name. A
  header value is kept as its text: the crate's `HeaderValue` holds bytes, but a value
  is only ever made from text and read back as text. A `HeaderMap` is a multimap
  (`Lib.MultiMap`) from names to values in arrival order; `HeaderMap::insert` puts the
  new value where the old ones were, the model after the other entries, and no function
  here depends on where. An `Authority` is its text, as `as_str` returns it. A `Uri` is
  its authority and its path and query, as the accessors return them; a `Request` is its
  method, URI, version and headers, without its body.

  The crate is not part of the repository, so what its functions compute is a parameter,
  `Crate`: parsing a header name, reading a value as text, making a value from text,
  parsing an authority, taking its host and taking a URI's path. Each result about code
  that calls them states what it needs of them as a hypothesis on the crate, beside the
  result. The examples run the code with `Crate.verbatim`, which takes every text as it
  is.
-/

namespace A3sBox.Lib.Http

open A3sBox.Lib.Str

/-- A header name, by its text in lowercase. -/
structure HeaderName where
  val : String
deriving DecidableEq

/-- `http::HeaderMap`: header names to their values, in arrival order. -/
abbrev HeaderMap := List (HeaderName × String)

/-! The standard header names the proxy reads. -/

def HeaderName.host : HeaderName := ⟨"host"⟩
def HeaderName.connection : HeaderName := ⟨"connection"⟩
def HeaderName.upgrade : HeaderName := ⟨"upgrade"⟩
def HeaderName.te : HeaderName := ⟨"te"⟩
def HeaderName.trailer : HeaderName := ⟨"trailer"⟩
def HeaderName.transferEncoding : HeaderName := ⟨"transfer-encoding"⟩
def HeaderName.origin : HeaderName := ⟨"origin"⟩

/-- `http::uri::Authority`, by its text. -/
structure Authority where
  val : String
deriving DecidableEq

inductive Method where
  | options
  | get
  | post
  | put
  | delete
  | head
  | trace
  | connect
  | patch
  | extension (name : String)
deriving DecidableEq

inductive Version where
  | http09
  | http10
  | http11
  | http2
  | http3
deriving DecidableEq

/-- `http::Uri`, as `authority()` and `path_and_query()` return it. -/
structure Uri where
  authority : Option Authority
  pathAndQuery : Option String
deriving DecidableEq

/-- `http::Request`, without its body. -/
structure Request where
  method : Method
  uri : Uri
  version : Version
  headers : HeaderMap
deriving DecidableEq

/-- The functions of the `http` crate that the gateway calls, as the crate computes
    them. -/
structure Crate where
  /-- `str::parse::<HeaderName>` -/
  parseHeaderName : String → Option HeaderName
  /-- `HeaderValue::to_str`: the value as text, when the crate reads it as text -/
  headerValueToStr : String → Option String
  /-- `HeaderValue::from_str`: the value made from a text, when the crate takes it -/
  headerValueFromStr : String → Option String
  /-- `Authority::from_str` -/
  authorityFromStr : String → Option Authority
  /-- `Authority::host` -/
  authorityHost : Authority → List Char
  /-- `Uri::path` -/
  uriPath : Uri → String

/-- A crate that takes every text as it is: a name in lowercase, a value unchanged,
    every text as an authority whose host is the text before its first `:`, and a path
    as the path and query before the first `?`. On the plain ASCII texts of the examples
    it answers as the `http` crate does. -/
def Crate.verbatim : Crate where
  parseHeaderName text := some ⟨String.ofList (asciiLower text.toList)⟩
  headerValueToStr := some
  headerValueFromStr := some
  authorityFromStr text := some ⟨text⟩
  authorityHost authority := authority.val.toList.takeWhile (· ≠ ':')
  uriPath uri := (uri.pathAndQuery.map fun pathAndQuery =>
    String.ofList (pathAndQuery.toList.takeWhile (· ≠ '?'))).getD ""

end A3sBox.Lib.Http

import Reroute.Text

/-!
A URL as rules see it: a path and, after the first question mark, a query string.
-/

namespace Reroute.Url

def path (url : Text) : Text := Text.before '?' url

def query (url : Text) : Text := Text.after '?' url

/-- The path that rules are matched against: without the path that the application is mounted
under, and with a slash at the front. -/
def pathBelow (url applicationPath : Text) : Text :=
  match path ((Text.dropStart? applicationPath url).getD url) with
  | '/' :: rest => '/' :: rest
  | rest => '/' :: rest

/-- A new URL with an earlier query string: taken over if the URL has none, and added behind its
own if that is asked for. -/
def carryQuery (url query : Text) (append : Bool) : Text :=
  if query = [] then url
  else if '?' ∈ url then if append then url ++ '&' :: query else url
  else url ++ '?' :: query

end Reroute.Url

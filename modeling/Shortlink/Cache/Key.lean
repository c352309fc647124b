/-!
# Cache keys

The keys under which answers are cached: one for each code, and one for each page of the
listing. All pages share a stem, so that they can be dropped together.
-/

namespace Shortlink.Cache

/-- The key of the long URL behind a code. -/
def codeKey (code : String) : String := "shortened-url:" ++ code

/-- What the keys of all listing pages start with. -/
def listStem : String := "shortened-urls:"

/-- The key of a listing page. -/
def pageKey (page size : Int) : String :=
  listStem ++ "page:" ++ toString page ++ ":" ++ toString size

end Shortlink.Cache

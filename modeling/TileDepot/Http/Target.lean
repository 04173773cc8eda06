import TileDepot.Http.Message
import TileDepot.Http.Percent
import TileDepot.Text.Case

/-!
# Requests from their parts

A target is a percent-encoded path and, after the first question mark, a query that is kept as it is.
-/

namespace TileDepot.Http

/-- The characters before and after the first question mark. -/
def splitTarget : List Char → List Char × List Char
  | [] => ([], [])
  | '?' :: rest => ([], rest)
  | c :: rest =>
      let (path, query) := splitTarget rest
      (c :: path, query)

/-- A request with a target and with headers in any case. -/
def Request.ofTarget (method target : String) (headers : List (String × String))
    (body : ByteArray) : Request :=
  let (path, query) := splitTarget target.toList
  { method := method
    path := percentDecode (String.ofList path)
    query := String.ofList query
    headers := headers.map (fun h => (Text.lowerAscii h.1, h.2))
    body := body }

/-- A target without a question mark has no query. -/
theorem splitTarget_plain (cs : List Char) (h : '?' ∉ cs) : splitTarget cs = (cs, []) := by
  fun_induction splitTarget cs with
  | case1 => rfl
  | case2 rest => simp at h
  | case3 c rest hc path query heq ih =>
      have := ih (fun hm => h (List.mem_cons_of_mem _ hm))
      simp_all

end TileDepot.Http

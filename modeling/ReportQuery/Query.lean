import ReportQuery.DateRange
import ReportQuery.Predicate

namespace ReportQuery

structure Query where
  fields : Entries String
  predicate : Option Predicate
  limit : Option { n : Nat // 0 < n }
  dates : Option DateArgument
  nodup_fields : fields.keys.Nodup

end ReportQuery

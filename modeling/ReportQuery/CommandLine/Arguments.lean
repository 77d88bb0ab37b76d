namespace ReportQuery.CommandLine

inductive Arguments where
  | explain (path propertyId : String)
  | query (path : String) (trace : Bool)
  deriving DecidableEq

namespace Arguments

def usage : String :=
  "usage: explain REQUEST [--property-id ID]\n       query REQUEST [--trace]\n"

def explainFrom (path propertyId : Option String) : List String → Option Arguments
  | "--property-id" :: id :: rest => explainFrom path (some id) rest
  | "-p" :: id :: rest => explainFrom path (some id) rest
  | word :: rest => if path.isSome then none else explainFrom (some word) propertyId rest
  | [] => path.map fun p => .explain p (propertyId.getD "")

def queryFrom (path : Option String) (trace : Bool) : List String → Option Arguments
  | "--trace" :: rest => queryFrom path true rest
  | word :: rest => if path.isSome then none else queryFrom (some word) trace rest
  | [] => path.map fun p => .query p trace

def parse : List String → Option Arguments
  | "explain" :: rest => explainFrom none none rest
  | "query" :: rest => queryFrom none false rest
  | _ => none

end Arguments

end ReportQuery.CommandLine

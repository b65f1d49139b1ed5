/-!
# Environments

The variables of a process, each with one value, in the order of their names.
-/

namespace FaultBench

/-- Variables with their values, in the order of the names. -/
abbrev Environment := List (String × String)

namespace Environment

/-- Sets a variable. -/
def insert (k v : String) : Environment → Environment
  | [] => [(k, v)]
  | (k', v') :: rest =>
    if k < k' then (k, v) :: (k', v') :: rest
    else if k = k' then (k, v) :: rest
    else (k', v') :: insert k v rest

/-- Sets variables in turn. -/
def ofPairs (kvs : List (String × String)) : Environment :=
  kvs.foldl (fun env kv => env.insert kv.1 kv.2) []

end Environment

end FaultBench

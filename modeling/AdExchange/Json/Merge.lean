import AdExchange.Json.Basic

/-!
# Merging JSON values

A patch is merged into a value member by member: a member that the patch sets to `null` goes, an
object is merged into the object that is there, and anything else takes the place of what is
there.  An object that meets no object is taken over as it is, its own `null` members included.
-/

namespace AdExchange

namespace Json

mutual

/-- The value with a patch merged into it. -/
def merge (target : Json) : Json → Json
  | .object patch =>
    match target with
    | .object fields => .object (mergeFields fields patch)
    | _ => .object patch
  | patch => patch

/-- The fields with the members of a patch merged into them, one after the other. -/
def mergeFields (fields : Dictionary Json) : List (String × Json) → Dictionary Json
  | [] => fields
  | (key, patch) :: rest =>
    if patch.isNull then mergeFields (Dictionary.erase fields key) rest
    else
      let old := (Dictionary.get? fields key).getD .null
      mergeFields (Dictionary.insert fields key (merge old patch)) rest

end

end Json

end AdExchange

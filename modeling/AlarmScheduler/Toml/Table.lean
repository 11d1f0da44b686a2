import AlarmScheduler.Toml.Value

namespace AlarmScheduler.Toml

structure Assignment where
  path : List String
  key : String
  value : Value

namespace TableOf

def empty (origin : Origin) : Table := ⟨origin, []⟩

def get? (t : Table) (key : String) : Option Value := t.entries.lookup key

def append (t : Table) (key : String) (v : Value) : Table :=
  { t with entries := t.entries ++ [(key, v)] }

def replace (t : Table) (key : String) (v : Value) : Table :=
  { t with entries := t.entries.map fun e => if e.1 = key then (key, v) else e }

def erase (t : Table) (key : String) : Table :=
  { t with entries := t.entries.filter fun e => e.1 != key }

def opensTo (t : Table) (step : Origin) : Bool :=
  t.origin != .braces && !(step == .dotted && t.origin == .header)

def atPath (step : Origin) : List String → (Table → Option Table) → Table → Option Table
  | [], change, t => change t
  | key :: path, change, t =>
    match t.get? key with
    | none => (atPath step path change (empty step)).map fun u => t.append key (.table u)
    | some (.table u) =>
      if u.opensTo step then
        (atPath step path change u).map fun u => t.replace key (.table u)
      else none
    | some (.rows earlier u) =>
      (atPath step path change u).map fun u => t.replace key (.rows earlier u)
    | some _ => none

def assign (t : Table) (a : Assignment) : Option Table :=
  atPath .dotted a.path
    (fun u =>
      if (u.origin == .dotted) == a.path.isEmpty then none
      else if (u.get? a.key).isSome then none
      else some (u.append a.key a.value))
    t

def assignAll (t : Table) (as : List Assignment) : Option Table := as.foldlM assign t

end TableOf

inductive Place where
  | top
  | table (path : List String) (key : String)
  | row (path : List String) (key : String)

structure Block where
  place : Place
  body : List Assignment

namespace TableOf

/-- A table that has no header yet is taken out and put back last, with what it held. -/
def putTable (key : String) (body : List Assignment) (t : Table) : Option Table := do
  let start ← match t.get? key with
    | none => pure (empty .header)
    | some (.table u) => if u.origin = .path then pure { u with origin := .header } else none
    | some _ => none
  let u ← start.assignAll body
  pure ((t.erase key).append key (.table u))

def putRow (key : String) (body : List Assignment) (t : Table) : Option Table := do
  let u ← (empty .header).assignAll body
  match t.get? key with
  | none => pure (t.append key (.rows [] u))
  | some (.rows earlier last) => pure (t.replace key (.rows (earlier ++ [last]) u))
  | some _ => none

def put (t : Table) (b : Block) : Option Table :=
  match b.place with
  | .top => t.assignAll b.body
  | .table path key => atPath .path path (putTable key b.body) t
  | .row path key => atPath .path path (putRow key b.body) t

def ofBlocks (bs : List Block) : Option Table := bs.foldlM put (empty .header)

end TableOf

end AlarmScheduler.Toml

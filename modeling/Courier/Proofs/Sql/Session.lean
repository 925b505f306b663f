import Courier.Proofs.Transcript
import Courier.Sql.Session

/-!
# What a session stores, and what another one finds

An insertion names the columns of its table and a parameter for each of them, so that it puts a row
into the table in which every column has the value that is bound to its parameter. What a session
has put into a table is read off the insertions that were accepted. It comes back if a session that
looks for it, and is answered with these rows, finds what was stored.

* `Relation.row`, `Statement.row?`: the row that an insertion puts into a table.
* `rowsPut`: the rows that are put into a table while a session runs.
* `replying`: a database that answers every statement with the same rows.
* `ComesBack`: what one session stores is what another one finds.
* `execute_rowsPut`, `transaction_rowsPut`: the rows that sessions put.
* `run_fetchAll`, `run_fetchFirst`: what is read of the rows that are replied.
-/

namespace Courier.Sql

/-! ### Rows that are put -/

/-- The row in which each column of the table has its value. -/
def Relation.row (r : Relation) (values : List Value) : Row := r.columns.zip values

/-- The row that a statement puts into the table, if it is an insertion with a value for every
    column. What follows on the insertion is for rows that are there already. -/
def Statement.row? (s : Statement) (r : Relation) : Option Row :=
  if r.insertion.toList.isPrefixOf s.text.toList ∧ s.params.length = r.columns.length then
    some (r.row s.params)
  else none

/-- The row that a call of the database puts into the table, if it is an accepted insertion. -/
def rowPut? (r : Relation) : (Σ q : Request, q.Answer) → Option Row
  | ⟨.run s, .ok _⟩ => s.row? r
  | _ => none

/-- The rows that are put into the table, in the order of putting. -/
def rowsPut (r : Relation) (calls : Transcript Request Request.Answer) : List Row :=
  calls.filterMap (rowPut? r)

/-- A database that answers every statement with the given rows. -/
def replying (rows : List Row) : (q : Request) → Unit → q.Answer × Unit
  | .connect, db => (.ok (), db)
  | .run _, db => (.ok ⟨rows, rows.length⟩, db)

/-- Whatever is answered, if `store` succeeds, then `find` finds `a` when it is answered with the
    rows that `store` has put into the table. -/
def ComesBack {ε ε' α : Type} (r : Relation) (store : Session (Except ε Unit))
    (find : Session (Except ε' α)) (a : α) : Prop :=
  ∀ calls, store.Runs calls (.done (.ok ())) →
    (find.run (replying (rowsPut r calls)) ()).1 = .ok a

/-! ### What is put -/

variable {r : Relation} {calls calls' : Transcript Request Request.Answer} {text : String}
  {params : List Value}

theorem rowsPut_append : rowsPut r (calls ++ calls') = rowsPut r calls ++ rowsPut r calls' :=
  List.filterMap_append

/-- A statement that begins with an insertion puts a row, whatever follows. -/
theorem row?_of_prefix (h : r.insertion.toList <+: text.toList)
    (hlength : params.length = r.columns.length) :
    Statement.row? ⟨text, params⟩ r = some (r.row params) :=
  if_pos ⟨List.isPrefixOf_iff_prefix.2 h, hlength⟩

theorem head?_insertion (r : Relation) : r.insertion.toList.head? = some 'I' := by
  -- Lean takes long to find the equation of this definition, so it is opened without one.
  delta Relation.insertion
  simp only [String.toList_append, List.append_assoc]
  rfl

/-- A statement that begins with another letter than an insertion puts nothing. -/
theorem row?_eq_none (h : text.toList.head? ≠ some 'I') :
    Statement.row? ⟨text, params⟩ r = none := by
  refine if_neg fun hrow => h ?_
  obtain ⟨rest, hrest⟩ := List.isPrefixOf_iff_prefix.1 hrow.1
  rw [← hrest, List.head?_append, head?_insertion]
  rfl

/-- A statement that is accepted is one call. -/
theorem run_rowsPut {reply : Reply} (h : (run text params).Runs calls (.done (.ok reply))) :
    rowsPut r calls = (Statement.row? ⟨text, params⟩ r).toList := by
  obtain ⟨answer, calls', rfl, hdone⟩ := h.of_ask
  obtain ⟨rfl, rfl⟩ := hdone.of_done
  cases hrow : Statement.row? ⟨text, params⟩ r <;> simp [rowsPut, rowPut?, hrow]

theorem query_rowsPut {reply : Reply} (h : (query text params).Runs calls (.done (.ok reply))) :
    rowsPut r calls = (Statement.row? ⟨text, params⟩ r).toList := by
  obtain ⟨answer, calls₁, calls₂, rfl, hconnect, hrest⟩ := h.of_bind
  obtain ⟨answer', calls', rfl, hdone⟩ := hconnect.of_ask
  obtain ⟨rfl, rfl⟩ := hdone.of_done
  cases answer' with
  | error failure => cases hrest.of_done.2
  | ok _ =>
    rw [rowsPut_append, run_rowsPut hrest]
    exact List.nil_append _

/-- A statement alone, by the row that it puts. -/
theorem execute_rowsPut {n : Nat} (h : (execute text params).Runs calls (.done (.ok n))) :
    rowsPut r calls = (Statement.row? ⟨text, params⟩ r).toList := by
  obtain ⟨answer, calls₁, calls₂, rfl, hquery, hrest⟩ := h.of_bind
  obtain ⟨rfl, hanswer⟩ := hrest.of_done
  cases answer with
  | error failure => cases hanswer
  | ok reply => rw [List.append_nil, query_rowsPut hquery]

theorem begin_rowsPut (h : begin.Runs calls (.done (.ok ()))) : rowsPut r calls = [] := by
  obtain ⟨answer, calls₁, calls₂, rfl, hquery, hrest⟩ := h.of_bind
  obtain ⟨rfl, hanswer⟩ := hrest.of_done
  cases answer with
  | error failure => cases hanswer
  | ok reply =>
    rw [List.append_nil, query_rowsPut hquery, row?_eq_none (by decide)]
    rfl

theorem commit_rowsPut (h : commit.Runs calls (.done (.ok ()))) : rowsPut r calls = [] := by
  obtain ⟨answer, calls₁, calls₂, rfl, hcommit, hrest⟩ := h.of_bind
  cases answer with
  | error failure =>
    obtain ⟨answer', calls', calls'', -, -, hdone⟩ := hrest.of_bind
    cases hdone.of_done.2
  | ok reply =>
    obtain ⟨rfl, -⟩ := hrest.of_done
    rw [List.append_nil, run_rowsPut hcommit, row?_eq_none (by decide)]
    rfl

/-- Beginning a transaction and making it count puts nothing, so that only what is run in between
    does. -/
theorem transaction_rowsPut {session : Session (Except Failure Unit)}
    (h : (transaction session).Runs calls (.done (.ok ()))) :
    ∃ calls', session.Runs calls' (.done (.ok ())) ∧ rowsPut r calls = rowsPut r calls' := by
  obtain ⟨answer, calls₁, calls₂, rfl, hbegin, hrest⟩ := h.of_bind
  cases answer with
  | error failure => cases hrest.of_done.2
  | ok _ =>
    obtain ⟨answer, calls₂, calls₃, rfl, hsession, hrest⟩ := hrest.of_bind
    cases answer with
    | error failure =>
      obtain ⟨answer', calls', calls'', -, -, hdone⟩ := hrest.of_bind
      cases hdone.of_done.2
    | ok _ =>
      refine ⟨calls₂, hsession, ?_⟩
      rw [rowsPut_append, rowsPut_append, begin_rowsPut hbegin, commit_rowsPut hrest,
        List.nil_append, List.append_nil]

/-! ### What is found -/

variable {α : Type} {read : Row → Except Failure α} {rows : List Row}

/-- Rows that can all be read are read one after the other. -/
theorem mapM_map_eq_ok {ε β γ δ : Type} {f : γ → Except ε δ} {g : β → γ} {k : β → δ} {bs : List β}
    (h : ∀ b ∈ bs, f (g b) = .ok (k b)) : (bs.map g).mapM f = .ok (bs.map k) := by
  induction bs with
  | nil => rfl
  | cons b bs ih =>
    rw [List.map_cons, List.mapM_cons, h b List.mem_cons_self,
      ih fun b' hb' => h b' (List.mem_cons_of_mem _ hb')]
    rfl

theorem run_fetchAll :
    ((fetchAll read text params).run (replying rows) ()).1 = rows.mapM read := rfl

theorem run_fetchFirst :
    ((fetchFirst read text params).run (replying rows) ()).1 = rows.head?.mapM read := rfl

end Courier.Sql

import IonInsurance.Go

/-!
# The environment of a service

What a service sees of a request it sends to a peer, and what PostgreSQL does with a statement it cannot carry out.
-/

namespace IonInsurance

/-- No response, or a response with its status, its body, and what `json.Unmarshal` makes of the body. -/
inductive Reply : Type where
  | failed (err : String)
  | response (status : Nat) (body : String) (json : Json)

/-- A response with an empty body. -/
def Reply.status (n : Nat) : Reply := .response n "" .null

/-- `postDirect`: an error unless the peer answers below 400. -/
def Reply.direct (url : String) : Reply → Except String Unit
  | .failed err => .error ("POST " ++ url ++ ": " ++ err)
  | .response status body _ =>
    if status ≥ 400 then .error ("POST " ++ url ++ " HTTP " ++ toString status ++ ": " ++ body) else .ok ()

/-- The error of a query that finds no row. -/
def noRows : String := "no rows in result set"

/-- The error of a text that its column does not take. -/
def valueTooLong : String := "value too long for type character varying"

/-- PostgreSQL stores no zero byte in a text. -/
def fitsText (s : String) : Bool := !s.toUTF8.data.toList.contains 0

/-- Text that a `VARCHAR(n)` column takes as it is. -/
def fitsVarchar (n : Nat) (s : String) : Bool := s.toList.length ≤ n && fitsText s

/-- What a `VARCHAR(n)` column stores of a text: what is too long is cut off if it is blanks, and refused otherwise. -/
def varchar (n : Nat) (s : String) : Option String :=
  if fitsText s && (s.toList.drop n).all (· = ' ') then some (String.ofList (s.toList.take n)) else none

theorem length_varchar {n : Nat} {s v : String} (h : varchar n s = some v) : v.toList.length ≤ n := by
  unfold varchar at h
  split at h
  · obtain rfl := Option.some.inj h
    rw [String.toList_ofList]
    exact List.length_take_le ..
  · cases h

/-- A text is stored as it is exactly if it is not too long. -/
theorem varchar_eq_self_iff {n : Nat} {s v : String} (h : varchar n s = some v) : v = s ↔ s.toList.length ≤ n := by
  constructor
  · rintro rfl
    exact length_varchar h
  · intro hn
    unfold varchar at h
    split at h
    · obtain rfl := Option.some.inj h
      rw [List.take_of_length_le hn, String.ofList_toList]
    · cases h

/-- A statement with its answer and the database after it, unless the environment makes it fail; a failed statement
changes nothing. -/
def statement {σ α : Type} (sqlError : Option String) (s : σ) (run : Except String α × σ) : Except String α × σ :=
  match sqlError with
  | some err => (.error err, s)
  | none => run

@[simp] theorem statement_none {σ α : Type} (s : σ) (run : Except String α × σ) : statement none s run = run := rfl

@[simp] theorem statement_some {σ α : Type} (err : String) (s : σ) (run : Except String α × σ) :
    statement (some err) s run = (.error err, s) := rfl

/-- What holds of the database before a statement, and after it if it succeeds, holds after it. -/
theorem statement_keeps {σ α : Type} {P : σ → Prop} {s : σ} {run : Except String α × σ} (e : Option String) (hs : P s)
    (hrun : P run.2) : P (statement e s run).2 := by
  cases e with
  | none => exact hrun
  | some err => exact hs

/-- A statement that only reads. -/
@[simp] theorem statement_read {σ α : Type} (e : Option String) (s : σ) (a : Except String α) :
    (statement e s (a, s)).2 = s :=
  statement_keeps (P := fun s' => s' = s) e rfl rfl

end IonInsurance

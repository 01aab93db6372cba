import ChassisWatch.Json.Tree
import ChassisWatch.Proofs.Json.Scan

/-!
# The tree of what was written

The tokens of a value make its tree: every list and every record is closed where its bracket stands,
no fault is in the tree, and nothing is left over. Together with the scanner this gives the document
that the text of a value is.
-/

namespace ChassisWatch.Json

mutual

/-- The tree of a value. -/
def Value.node : Value → Node
  | .null => .null
  | .integer n => .number (.ofInteger n)
  | .real x => (Document.ofTokens (tokens (realText x))).root
  | .string s => .string (.sound s)
  | .list items => .list (itemNodes items) .closed
  | .record fields => .record (fieldNodes fields) .closed

/-- The trees of items. -/
def itemNodes : List Value → List Node
  | [] => []
  | v :: items => v.node :: itemNodes items

/-- The trees of fields under their names. -/
def fieldNodes : List (String × Value) → List (Text × Node)
  | [] => []
  | (name, v) :: fields => (.sound name, v.node) :: fieldNodes fields

end

theorem itemNodes_eq_map (items : List Value) : itemNodes items = items.map Value.node := by
  induction items with
  | nil => rfl
  | cons v items ih => rw [itemNodes, ih, List.map_cons]

theorem fieldNodes_eq_map (fields : List (String × Value)) :
    fieldNodes fields = fields.map fun e => (.sound e.1, e.2.node) := by
  induction fields with
  | nil => rfl
  | cons e fields ih => rw [fieldNodes, ih, List.map_cons]

/-- A double that is written as a numeral is a number of the tree. -/
theorem Scanner.IsNumeral.node_eq {x : Float} {n : Numeral} (h : IsNumeral (realText x) n) :
    (Value.real x).node = .number n := by
  rw [Value.node, h.tokens_eq]
  rfl

namespace Builder

theorem complete_cons (frame : Frame) (frames : List Frame) (v : Node) :
    complete (frame :: frames) v = ⟨frame :: frames, .separator v⟩ := rfl

/-- The first item of a list is taken in like any other value. -/
theorem feed_item (frames : List Frame) {t : Token} (h : t ≠ .closeList) :
    feed ⟨.list [] :: frames, .item⟩ t = feed ⟨.list [] :: frames, .value⟩ t := by
  cases t with
  | closeList => contradiction
  | _ => rfl

/-- No value begins with the end of a list. -/
theorem tokens_eq_cons {v : Value} (hfinite : v.Finite) :
    ∃ t ts, v.tokens = t :: ts ∧ t ≠ .closeList := by
  cases v with
  | null | integer | string => exact ⟨_, _, rfl, by simp⟩
  | real x =>
    obtain ⟨n, hn⟩ := hfinite
    exact ⟨_, _, hn.tokens_eq, by simp⟩
  | list items => cases items <;> exact ⟨_, _, rfl, by simp⟩
  | record fields => cases fields <;> exact ⟨_, _, rfl, by simp⟩

mutual

/-- The tokens of a value make its tree at the place of a value. -/
theorem foldl_tokens (v : Value) (hfinite : v.Finite) (frames : List Frame) (rest : List Token) :
    (v.tokens ++ rest).foldl feed ⟨frames, .value⟩ =
      rest.foldl feed (complete frames v.node) := by
  cases v with
  | null => rfl
  | integer n => rfl
  | real x =>
    obtain ⟨n, hn⟩ := hfinite
    rw [Value.tokens, hn.tokens_eq, hn.node_eq]
    rfl
  | string s => rfl
  | list items =>
    cases items with
    | nil => rfl
    | cons v items =>
      obtain ⟨hv, hitems⟩ := hfinite
      obtain ⟨t, ts, htokens, hfirst⟩ := tokens_eq_cons hv
      have hitem (tail : List Token) : (v.tokens ++ tail).foldl feed ⟨.list [] :: frames, .item⟩ =
          (v.tokens ++ tail).foldl feed ⟨.list [] :: frames, .value⟩ := by
        rw [htokens, List.cons_append, List.foldl_cons, List.foldl_cons, feed_item frames hfirst]
      have hopen : feed ⟨frames, .value⟩ .openList = ⟨.list [] :: frames, .item⟩ := rfl
      simp only [Value.tokens, List.cons_append, List.append_assoc, List.nil_append]
      rw [List.foldl_cons, hopen, hitem, foldl_tokens v hv]
      exact foldl_itemsTokens items hitems frames [] v.node rest
  | record fields =>
    cases fields with
    | nil => rfl
    | cons e fields =>
      obtain ⟨name, v⟩ := e
      obtain ⟨hv, hfields⟩ := hfinite
      have hname (tail : List Token) :
          (.openRecord :: .string (.sound name) :: .colon :: tail).foldl feed ⟨frames, .value⟩ =
            tail.foldl feed ⟨.field [] (.sound name) :: frames, .value⟩ := rfl
      simp only [Value.tokens, List.cons_append, List.append_assoc, List.nil_append]
      rw [hname, foldl_tokens v hv]
      exact foldl_fieldsTokens fields hfields frames [] (.sound name) v.node rest

/-- The tokens of further items, up to the bracket, complete the list. -/
theorem foldl_itemsTokens (items : List Value) (hfinite : FiniteItems items) (frames : List Frame)
    (before : List Node) (last : Node) (rest : List Token) :
    (itemsTokens items ++ .closeList :: rest).foldl feed ⟨.list before :: frames, .separator last⟩ =
      rest.foldl feed
        (complete frames (.list ((last :: before).reverse ++ itemNodes items) .closed)) := by
  cases items with
  | nil =>
    rw [itemNodes, List.append_nil]
    rfl
  | cons v items =>
    obtain ⟨hv, hitems⟩ := hfinite
    have hcomma : feed ⟨.list before :: frames, .separator last⟩ .comma =
        ⟨.list (last :: before) :: frames, .value⟩ := rfl
    have hitems := foldl_itemsTokens items hitems frames (last :: before) v.node rest
    simp only [itemsTokens, List.cons_append, List.append_assoc]
    rw [List.foldl_cons, hcomma, foldl_tokens v hv, complete_cons, hitems, itemNodes,
      List.reverse_cons, List.append_assoc, List.singleton_append]

/-- The tokens of further fields, up to the bracket, complete the record. -/
theorem foldl_fieldsTokens (fields : List (String × Value)) (hfinite : FiniteFields fields)
    (frames : List Frame) (before : List (Text × Node)) (name : Text) (last : Node)
    (rest : List Token) :
    (fieldsTokens fields ++ .closeRecord :: rest).foldl feed
        ⟨.field before name :: frames, .separator last⟩ =
      rest.foldl feed (complete frames
        (.record (((name, last) :: before).reverse ++ fieldNodes fields) .closed)) := by
  cases fields with
  | nil =>
    rw [fieldNodes, List.append_nil]
    rfl
  | cons e fields =>
    obtain ⟨next, v⟩ := e
    obtain ⟨hv, hfields⟩ := hfinite
    have hname (tail : List Token) : (.comma :: .string (.sound next) :: .colon :: tail).foldl feed
        ⟨.field before name :: frames, .separator last⟩ =
          tail.foldl feed
            ⟨.field ((name, last) :: before) (.sound next) :: frames, .value⟩ := rfl
    have hfields := foldl_fieldsTokens fields hfields frames ((name, last) :: before) (.sound next)
      v.node rest
    simp only [fieldsTokens, List.cons_append, List.append_assoc]
    rw [hname, foldl_tokens v hv, complete_cons, hfields, fieldNodes, List.reverse_cons,
      List.append_assoc, List.singleton_append]

end

end Builder

/-- The document of a text is that of its characters. -/
theorem Document.ofText_ofList (cs : List Char) :
    Document.ofText (String.ofList cs) = Document.ofTokens (tokens cs) := by
  rw [Document.ofText, String.toList_ofList]

/-- The text of a value is the document of its tree, however it is spaced and whatever blanks
follow. -/
theorem Document.ofText_text_lineBreak (sp after : Spacing) {v : Value} (hfinite : v.Finite) :
    Document.ofText (String.ofList (v.text sp ++ after.lineBreak)) = ⟨v.node, false⟩ := by
  have hfold := Builder.foldl_tokens v hfinite [] []
  rw [List.append_nil] at hfold
  rw [Document.ofText_ofList, v.tokens_text_lineBreak sp after hfinite, Document.ofTokens, hfold]
  rfl

end ChassisWatch.Json

import RemoteQuery.Clause.Aggregate
import RemoteQuery.Clause.Embedded
import RemoteQuery.Clause.Explain
import RemoteQuery.Clause.Raw
import RemoteQuery.Clause.Window
import RemoteQuery.Proofs.Clause.Frame
import RemoteQuery.Proofs.Value

namespace RemoteQuery

open Wire

@[simp] theorem RangeClause.ofStructure_toStructure (r : RangeClause) :
    ofStructure r.toStructure = .ok r := by
  simp [ofStructure, toStructure, Json.record_eq, required, readBounds]

@[simp] theorem SetClause.ofStructure_toStructure (s : SetClause) :
    ofStructure s.toStructure = .ok s := by
  simp [ofStructure, toStructure, Json.record_eq, required]

@[simp] theorem NullnessClause.ofStructure_toStructure (n : NullnessClause) :
    ofStructure n.toStructure = .ok n := by
  simp [ofStructure, toStructure, Json.record_eq, required]

@[simp] theorem HavingClause.ofStructure_toStructure (h : HavingClause) :
    ofStructure h.toStructure = .ok h := by
  simp [ofStructure, toStructure, Json.record_eq, required, orElse_eq, Value.ofJson_toJson]

@[simp] theorem OrderSpec.ofStructure_toStructure (o : OrderSpec) :
    ofStructure o.toStructure = .ok o := by
  simp [ofStructure, toStructure, Json.record_eq, required, optional_eq, orElse_eq]

@[simp] theorem AggregateSpec.ofStructure_toStructure (a : AggregateSpec) :
    ofStructure a.toStructure = .ok a := by
  simp [ofStructure, toStructure, Json.record_eq, required, optional_eq]

@[simp] theorem PivotSpec.ofStructure_toStructure (p : PivotSpec) :
    ofStructure p.toStructure = .ok p := by
  simp [ofStructure, toStructure, Json.record_eq, required]

namespace TransformSpec

@[simp] theorem readComputed_computedToJson (compute : Fields String) :
    readComputed (computedToJson compute) = .ok compute := by
  simp only [readComputed, computedToJson, object_object, Decoded.ok_bind]
  induction compute with
  | nil => rfl
  | cons entry rest ih =>
      obtain ⟨name, expression⟩ := entry
      simp [readAll, readExpression, ih]

@[simp] theorem ofStructure_toStructure (t : TransformSpec) :
    ofStructure t.toStructure = .ok t := by
  simp [ofStructure, toStructure, Json.record_eq, optional_eq]

end TransformSpec

@[simp] theorem ExplainOptions.ofStructure_toStructure (e : ExplainOptions) :
    ofStructure e.toStructure = .ok e := by
  simp [ofStructure, toStructure, Json.record_eq, optional_eq]

@[simp] theorem RawExpression.ofStructure_toStructure (r : RawExpression) :
    ofStructure r.toStructure = .ok r := by
  simp [ofStructure, toStructure, Json.record_eq, required, orElse_eq]

@[simp] theorem JoinCondition.ofStructure_toStructure (c : JoinCondition) :
    ofStructure c.toStructure = .ok c := by
  simp [ofStructure, toStructure, Json.record_eq, required]

@[simp] theorem OverClause.ofStructure_toStructure (o : OverClause) :
    ofStructure o.toStructure = .ok o := by
  simp [ofStructure, ofFields, toStructure, partitionStructure, orderStructure, frameStructure,
    Json.record_eq, optional_eq, orElse_eq]

@[simp] theorem WindowSpec.ofStructure_toStructure (w : WindowSpec) :
    ofStructure w.toStructure = .ok w := by
  simp [ofStructure, toStructure, OverClause.ofFields, OverClause.partitionStructure,
    OverClause.orderStructure, OverClause.frameStructure, Json.record_eq, required, optional_eq,
    orElse_eq]

end RemoteQuery

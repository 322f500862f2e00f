import PlotJugglerSdk.Builtin.ImageCodecs

/-!
# Image annotations

The one codec that writes nothing for a default timestamp or topic, stores a
circle's diameter for its radius, and defaults an absent alpha to opaque. Its
loops are hand-written and fail on the first bad payload.
-/

namespace PlotJugglerSdk

open Wire FloatOps

variable [FloatOps]

/-! ## Points and colours -/

def writePoint2 (point : Point2) : Bytes :=
  Writer.doubleField 1 point.x ++ Writer.doubleField 2 point.y

def point2Fields : List (FieldDecl Point2) :=
  [.fixed64 1 fun x point => { point with x },
   .fixed64 2 fun y point => { point with y }]

def point2Loop : FieldLoop Point2 := .strict point2Fields

def decodePoint2 : Decoder Point2 := point2Loop.decode

omit [FloatOps] in
theorem decodePoint2_writePoint2 {point : Point2} (out : Point2)
    (hlen : (writePoint2 point).length < 2 ^ 64) :
    decodePoint2 (writePoint2 point) out = (true, point) := by
  have hbuild : Rebuilds point2Fields (writePoint2 point) out point := by
    apply Rebuilds.append
    · exact .fixed64 (by decide) rfl rfl
    · exact .fixed64 (by decide) rfl rfl
  exact Rebuilds.decode hbuild hlen

def annotationColorLoop : FieldLoop ColorParts := .strict colorFields

/-- Not `decodeColor`: an absent alpha is one. -/
def decodeAnnotationColor : Decoder ColorRGBA :=
  annotationColorLoop.finish { a := .one } fun parts => some parts.color

theorem decodeAnnotationColor_writeColor (hexact : ColorExact) {color : ColorRGBA}
    (out : ColorRGBA) (hlen : (writeColor color).length < 2 ^ 64) :
    decodeAnnotationColor (writeColor color) out = (true, color) :=
  FieldLoop.finish_of_decode out (Rebuilds.decode (rebuilds_writeColor color _) hlen)
    (congrArg some (ColorParts.color_byteToNormalized hexact color))

/-! ## Points annotation -/

def topologyToEnum : AnnotationTopology → UInt64
  | .points => 1
  | .lineLoop => 2
  | .lineStrip => 3
  | .lineList => 4

def mapTopology (value : UInt64) : AnnotationTopology :=
  match value.toNat with
  | 1 => .points
  | 2 => .lineLoop
  | 3 => .lineStrip
  | 4 => .lineList
  | _ => .points

omit [FloatOps] in
theorem mapTopology_topologyToEnum (topology : AnnotationTopology) :
    mapTopology (topologyToEnum topology) = topology := by
  cases topology <;> rfl

def writePointsAnnotation (points : PointsAnnotation) : Bytes :=
  Writer.varint 2 (topologyToEnum points.topology) ++
    (points.points.flatMap fun point => Writer.message 3 (writePoint2 point)) ++
    Writer.message 4 (writeColor points.color) ++
    (points.colors.flatMap fun color => Writer.message 5 (writeColor color)) ++
    Writer.message 6 (writeColor points.fillColor) ++
    Writer.doubleField 7 points.thickness

def pointsAnnotationFields : List (FieldDecl PointsAnnotation) :=
  [.varint 2 fun value out => { out with topology := mapTopology value },
   .repeated 3 decodePoint2 {} fun f out => { out with points := f out.points },
   .message 4 decodeAnnotationColor (·.color) fun color out => { out with color },
   .repeated 5 decodeAnnotationColor {} fun f out => { out with colors := f out.colors },
   .message 6 decodeAnnotationColor (·.fillColor) fun fillColor out => { out with fillColor },
   .fixed64 7 fun thickness out => { out with thickness }]

def pointsAnnotationLoop : FieldLoop PointsAnnotation := .strict pointsAnnotationFields

def decodePointsAnnotation : Decoder PointsAnnotation := pointsAnnotationLoop.decode

theorem decodePointsAnnotation_write (hexact : ColorExact) {points : PointsAnnotation}
    (hlen : ( writePointsAnnotation points).length < 2 ^ 64) :
    decodePointsAnnotation ( writePointsAnnotation points) {} = (true, points) := by
  have hbuild : Rebuilds pointsAnnotationFields ( writePointsAnnotation points) {} points := by
    iterate 5 apply Rebuilds.append
    · exact .varint (by decide) rfl rfl
    · exact .repeated (by decide) rfl (fun _ => rfl) (fun _ _ _ => rfl)
        (fun _ _ => decodePoint2_writePoint2 {}) rfl
    · exact .message (by decide) rfl (decodeAnnotationColor_writeColor hexact _) rfl
    · exact .repeated (by decide) rfl (fun _ => rfl) (fun _ _ _ => rfl)
        (fun _ _ => decodeAnnotationColor_writeColor hexact {}) rfl
    · exact .message (by decide) rfl (decodeAnnotationColor_writeColor hexact _) rfl
    · refine .fixed64 (by decide) rfl ?_
      simp only [mapTopology_topologyToEnum, List.nil_append]
  exact Rebuilds.decode hbuild hlen

/-! ## Circle annotation -/

def writeCircleAnnotation (circle : CircleAnnotation) : Bytes :=
  Writer.message 2 (writePoint2 circle.center) ++
    Writer.doubleField 3 (twice circle.radius) ++
    Writer.doubleField 4 circle.thickness ++
    Writer.message 5 (writeColor circle.fillColor) ++
    Writer.message 6 (writeColor circle.color)

def circleAnnotationFields : List (FieldDecl CircleAnnotation) :=
  [.message 2 decodePoint2 (·.center) fun center out => { out with center },
   .fixed64 3 fun diameter out => { out with radius := half diameter },
   .fixed64 4 fun thickness out => { out with thickness },
   .message 5 decodeAnnotationColor (·.fillColor) fun fillColor out => { out with fillColor },
   .message 6 decodeAnnotationColor (·.color) fun color out => { out with color }]

def circleAnnotationLoop : FieldLoop CircleAnnotation := .strict circleAnnotationFields

/-- Sets the defaults of everything but the centre before it reads. -/
def decodeCircleAnnotation : Decoder CircleAnnotation where
  run bytes out :=
    circleAnnotationLoop.decode bytes
      { out with
        color := ⟨0, 255, 0, 255⟩
        fillColor := ⟨0, 0, 0, 0⟩
        thickness := .two
        radius := .one }
  steady bytes _ _ := circleAnnotationLoop.decode.steady bytes _ _

theorem decodeCircleAnnotation_write (hexact : ColorExact) {circle : CircleAnnotation}
    (hradius : half (twice circle.radius) = circle.radius)
    (hlen : ( writeCircleAnnotation circle).length < 2 ^ 64) :
    decodeCircleAnnotation ( writeCircleAnnotation circle) {} = (true, circle) := by
  have hbuild : Rebuilds circleAnnotationFields ( writeCircleAnnotation circle) {} circle := by
    iterate 4 apply Rebuilds.append
    · exact .message (by decide) rfl (decodePoint2_writePoint2 _) rfl
    · exact .fixed64 (by decide) rfl rfl
    · exact .fixed64 (by decide) rfl rfl
    · exact .message (by decide) rfl (decodeAnnotationColor_writeColor hexact _) rfl
    · refine .message (by decide) rfl (decodeAnnotationColor_writeColor hexact _) ?_
      simp only [hradius]
  have hdecode : circleAnnotationLoop.decode ( writeCircleAnnotation circle) {} = (true, circle) :=
    Rebuilds.decode hbuild hlen
  simp only [ decodeCircleAnnotation]
  exact hdecode

/-! ## Text annotation -/

def writeTextAnnotation (text : TextAnnotation) : Bytes :=
  Writer.message 2 (writePoint2 text.position) ++
    Writer.string 3 text.text ++
    Writer.doubleField 4 text.fontSize ++
    Writer.message 5 (writeColor text.color)

def textAnnotationFields : List (FieldDecl TextAnnotation) :=
  [.message 2 decodePoint2 (·.position) fun position out => { out with position },
   .bytes 3 fun text out => { out with text },
   .fixed64 4 fun fontSize out => { out with fontSize },
   .message 5 decodeAnnotationColor (·.color) fun color out => { out with color }]

def textAnnotationLoop : FieldLoop TextAnnotation := .strict textAnnotationFields

def decodeTextAnnotation : Decoder TextAnnotation where
  run bytes out :=
    textAnnotationLoop.decode bytes
      { out with
        color := ⟨255, 255, 255, 255⟩
        fontSize := .fourteen }
  steady bytes _ _ := textAnnotationLoop.decode.steady bytes _ _

theorem decodeTextAnnotation_write (hexact : ColorExact) {text : TextAnnotation}
    (hlen : ( writeTextAnnotation text).length < 2 ^ 64) :
    decodeTextAnnotation ( writeTextAnnotation text) {} = (true, text) := by
  have hbuild : Rebuilds textAnnotationFields ( writeTextAnnotation text) {} text := by
    iterate 3 apply Rebuilds.append
    · exact .message (by decide) rfl (decodePoint2_writePoint2 _) rfl
    · exact .bytes (by decide) rfl rfl
    · exact .fixed64 (by decide) rfl rfl
    · exact .message (by decide) rfl (decodeAnnotationColor_writeColor hexact _) rfl
  have hdecode : textAnnotationLoop.decode ( writeTextAnnotation text) {} = (true, text) :=
    Rebuilds.decode hbuild hlen
  simp only [ decodeTextAnnotation]
  exact hdecode

/-! ## ImageAnnotations -/

def serializeImageAnnotations (annotations : ImageAnnotations) : Bytes :=
  (annotations.circles.flatMap fun circle => Writer.message 1 ( writeCircleAnnotation circle)) ++
    (annotations.points.flatMap fun points => Writer.message 2 ( writePointsAnnotation points)) ++
    (annotations.texts.flatMap fun text => Writer.message 3 ( writeTextAnnotation text)) ++
    (if annotations.timestamp ≠ 0 then Writer.message 5 (writeTimestamp annotations.timestamp)
      else []) ++
    (if annotations.imageTopic ≠ [] then Writer.string 6 annotations.imageTopic else [])

def imageAnnotationsFields : List (FieldDecl ImageAnnotations) :=
  [.repeated 1 decodeCircleAnnotation {} fun f a => { a with circles := f a.circles },
   .repeated 2 decodePointsAnnotation {} fun f a => { a with points := f a.points },
   .repeated 3 decodeTextAnnotation {} fun f a => { a with texts := f a.texts },
   .message 5 decodeTimestamp (·.timestamp) fun timestamp a => { a with timestamp },
   .bytes 6 fun imageTopic a => { a with imageTopic }]

def imageAnnotationsLoop : FieldLoop ImageAnnotations := .strict imageAnnotationsFields

def deserializeImageAnnotations (data : Bytes) : Except String ImageAnnotations :=
  deserializeBatch "ImageAnnotations"
    (fun number =>
      if number = 6 then "image_topic decode failed" else "bad nested message length")
    (fun
      | 1 => "CircleAnnotation decode failed"
      | 2 => "PointsAnnotation decode failed"
      | 3 => "TextAnnotation decode failed"
      | _ => "Timestamp decode failed")
    imageAnnotationsFields {} data

theorem imageAnnotationsLoop_serializeImageAnnotations (hexact : ColorExact)
    {annotations : ImageAnnotations}
    (hradius : ∀ circle ∈ annotations.circles, half (twice circle.radius) = circle.radius)
    (hlen : (serializeImageAnnotations annotations).length < 2 ^ 64) :
    imageAnnotationsLoop.decode (serializeImageAnnotations annotations) {} =
      (true, annotations) := by
  obtain ⟨timestamp, imageTopic, points, circles, texts⟩ := annotations
  -- the two members that came later are written only where they are set
  have htime : Rebuilds imageAnnotationsFields
      (if timestamp ≠ 0 then Writer.message 5 (writeTimestamp timestamp) else [])
      ⟨0, [], points, circles, texts⟩ ⟨timestamp, [], points, circles, texts⟩ := by
    by_cases hzero : timestamp = 0
    · subst hzero
      exact .nil _
    · rw [if_pos hzero]
      exact .message (by decide) rfl (decodeTimestamp_writeTimestamp _) rfl
  have htopic : Rebuilds imageAnnotationsFields
      (if imageTopic ≠ [] then Writer.string 6 imageTopic else [])
      ⟨timestamp, [], points, circles, texts⟩ ⟨timestamp, imageTopic, points, circles, texts⟩ := by
    by_cases hempty : imageTopic = []
    · subst hempty
      exact .nil _
    · rw [if_pos hempty]
      exact .bytes (by decide) rfl rfl
  have hlists : Rebuilds imageAnnotationsFields
      ((circles.flatMap fun circle => Writer.message 1 ( writeCircleAnnotation circle)) ++
        (points.flatMap fun points => Writer.message 2 ( writePointsAnnotation points)) ++
        (texts.flatMap fun text => Writer.message 3 ( writeTextAnnotation text)))
      {} ⟨0, [], points, circles, texts⟩ := by
    iterate 2 apply Rebuilds.append
    · exact .repeated (by decide) rfl (fun _ => rfl) (fun _ _ _ => rfl)
        (fun circle hmem => decodeCircleAnnotation_write hexact (hradius circle hmem)) rfl
    · exact .repeated (by decide) rfl (fun _ => rfl) (fun _ _ _ => rfl)
        (fun _ _ => decodePointsAnnotation_write hexact) rfl
    · exact .repeated (by decide) rfl (fun _ => rfl) (fun _ _ _ => rfl)
        (fun _ _ => decodeTextAnnotation_write hexact) rfl
  have hbuild : Rebuilds imageAnnotationsFields
      (serializeImageAnnotations ⟨timestamp, imageTopic, points, circles, texts⟩) {}
      ⟨timestamp, imageTopic, points, circles, texts⟩ := (hlists.append htime).append htopic
  exact hbuild.decode hlen

end PlotJugglerSdk

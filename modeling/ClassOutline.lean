import ClassOutline.AccessFlags
import ClassOutline.AnnotationUse.Basic
import ClassOutline.AnnotationUse.Decode
import ClassOutline.AnnotationUse.Render
import ClassOutline.AnnotationUse.Spelling
import ClassOutline.Attribute.Basic
import ClassOutline.Attribute.Decode
import ClassOutline.Attribute.Summary
import ClassOutline.Bytes
import ClassOutline.ClassFile.Basic
import ClassOutline.ClassFile.Decode
import ClassOutline.ClassFile.References
import ClassOutline.ClassFile.Render
import ClassOutline.ClassFile.Spelling
import ClassOutline.Command
import ClassOutline.ConstantPool.Basic
import ClassOutline.ConstantPool.Decode
import ClassOutline.ConstantPool.Entry
import ClassOutline.ConstantPool.Reference
import ClassOutline.ConstantPool.Spelling
import ClassOutline.Decimal.Binary
import ClassOutline.Decimal.Positional
import ClassOutline.Decimal.Shortest
import ClassOutline.Decoder.Basic
import ClassOutline.Decoder.Source
import ClassOutline.Descriptor
import ClassOutline.Descriptor.Spelling
import ClassOutline.Error
import ClassOutline.FileSystem
import ClassOutline.FileTree.Basic
import ClassOutline.FileTree.Walk
import ClassOutline.Log
import ClassOutline.Main
import ClassOutline.Path
import ClassOutline.Proofs.AnnotationUse.Accepted
import ClassOutline.Proofs.ClassFile.Accepted
import ClassOutline.Proofs.ConstantPool.Accepted
import ClassOutline.Proofs.Decoder.Accepted
import ClassOutline.Spelling
import ClassOutline.Text.ModifiedUtf8
import ClassOutline.Text.ModifiedUtf8.Spelling
import ClassOutline.Text.Printable
import ClassOutline.Text.Quoted
import ClassOutline.Text.Utf16
import ClassOutline.Transducer
import ClassOutline.Proofs.ClassFile.RoundTrip
import ClassOutline.Proofs.ClassFile.Settled
import ClassOutline.Proofs.AnnotationUse.Shown
import ClassOutline.Proofs.ClassFile.Shown
import ClassOutline.Proofs.ClassFile.Resolution
import ClassOutline.Proofs.AnnotationUse.Verdict
import ClassOutline.Proofs.ClassFile.Verdict
import ClassOutline.Proofs.AnnotationUse.Payload
import ClassOutline.Proofs.AnnotationUse.Layout
import ClassOutline.Proofs.ClassFile.Layout
import ClassOutline.Decoder.Cursor
import ClassOutline.Proofs.Decoder.Cursor
import ClassOutline.Proofs.ClassFile.Repeated
import ClassOutline.Proofs.Text.ModifiedUtf8
import ClassOutline.Proofs.ClassFile.Remarked
import ClassOutline.Proofs.ClassFile.Delivered
import ClassOutline.Proofs.Command.Outcome
import ClassOutline.Proofs.Text.Malformed
import ClassOutline.Proofs.Descriptor.Field
import ClassOutline.Proofs.Descriptor.Method
import ClassOutline.Proofs.AnnotationUse.Nesting
import ClassOutline.Proofs.FileTree.Order
import ClassOutline.Proofs.FileTree.Visits
import ClassOutline.Proofs.ConstantPool.Views
import ClassOutline.Proofs.Text.Lines
import ClassOutline.Proofs.Text.Quoted
import ClassOutline.Proofs.ConstantPool.Dump
import ClassOutline.Proofs.AnnotationUse.OneLine
import ClassOutline.Proofs.ClassFile.Lines

import Mathlib.Logic.Basic

inductive PcmSampleFormat
  | s16Le
deriving DecidableEq, Repr

def PcmSampleFormat.bytesPerSample : PcmSampleFormat → Nat
  | s16Le => 2

structure GeneratedAudioBuffer where
  pcm          : List UInt8
  sampleRateHz : Option Nat
  channels     : Option Nat
  sampleFormat : Option PcmSampleFormat
deriving DecidableEq

structure AudioInput where
  pcm          : List UInt8
  sampleRateHz : Nat
  channels     : Nat
  sampleFormat : PcmSampleFormat
deriving DecidableEq

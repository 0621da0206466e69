import GraphCourier.Unicode.CodeTable

/-!
# Letters and digits of all scripts

`isAlphanumeric` holds of the characters with the property Alphabetic and of
those in a number category.
-/

namespace GraphCourier.Unicode

/-- The letters and digits outside ASCII, as text. -/
def alphanumericText : String := String.join [
  "4q 8.1 2 4.1 2.2 2.m 2.u 2.cp 5.b f.4 8 2 2f 17.4 2.1 3.3 2 7 2.2 2 2.j ",
  "2.2a 2.3u 9.4l 2.11 3 7.14 14.d 2 2.1 2.1 2 9.q 5.3 u.a 6.1j 2.g 5.2t 2.7 ",
  "5.7 5.f 3 h.1b e.2s f.16 a.1 5 6.n 3.i k.o 8.a 6.n 2.6 h.15 b.b 4.6 7.23 ",
  "2.f 2.2 5.e 3.9 2.i 2.7 3.1 3.l 2.6 2 4.3 4.7 3.1 3.1 2 9 5.1 2.4 3.b 3.5 ",
  "3 5.2 2.5 5.1 3.l 2.6 2.1 2.1 2.1 5.4 5.1 3.1 5 8.3 2 8.f c.2 2.8 2.2 2.l ",
  "2.6 2.1 2.4 4.8 2.2 2.1 4 g.3 3.9 a.3 5.2 2.7 3.1 3.l 2.6 2.1 2.4 4.7 3.1 ",
  "3.1 a.1 5.1 2.4 3.9 2.6 b.1 2.5 4.2 2.3 4.1 2 2.1 4.1 4.2 4.b 5.4 4.2 2.2 ",
  "4 7 f.c e.c 2.2 2.m 2.f 4.7 2.2 2.2 9.1 2.2 2.1 3.3 3.9 9.6 2.3 2.7 2.2 ",
  "2.m 2.9 2.4 4.7 2.2 2.2 9.1 6.2 2.3 3.9 2.2 d.c 2.2 2.14 3.7 2.2 2.2 2 6.f ",
  "3.i 2.5 2.2 2.h 4.n 2.8 2 3.6 9.5 2 2.7 7.9 3.1 e.1l 6.6 7 3.9 14.1 2 2.4 ",
  "2.n 2 2.i 2.2 3.4 2 7 3.9 3.3 x w.j d.7 2.z 5.i 5.f 2.z 1w.1i 2 3.e 7.25 ",
  "3.11 2 6 3.16 2.98 2.3 3.6 2 2.3 3.14 2.3 3.w 2.3 3.6 2 2.3 3.e 2.1k 2.3 ",
  "3.1u f.j 4.f h.2d 3.5 4.h7 3.g 2.p 6.22 4.a 8.j c.k d.j d.c 2.2 2.1 d.1f ",
  "3.i f 5 4.9 7.9 n.9 7.2g 8.16 6.1x b.u 2.b 5.8 e.13 3.4 c.17 5.p 7.a 12.r ",
  "5.1q 3.j c.9 7.9 e o.1 c.2 1e.1f 2.e 2.7 2.b 12.16 3.1l 2.a f.1i a.9 4.1c ",
  "3.a 6.16 3.2 16.3 2.5 2.1 4 6.5b 14.d c.7p 3.5 3.11 3.5 3.7 2 2 2 2.u 3.1g ",
  "2.6 2 4.2 2.6 4.3 3.5 5.c 6.2 2.6 38.1 3.5 6.a 7.c 11 1t 5 3.9 2 4.4 7 2 2 ",
  "2.3 2.a 3.3 6.4 5 2.1l im.2 1j.1n r.21 hj.t sj 2y.6c 7.3 4.1 a 3.11 2 6 ",
  "3.1j 8 h.m a.6 2.6 2.6 2.6 2.6 2.6 2.6 2.6 2.v 1c d2.2 q.8 8.4 3.4 5.2d ",
  "7.2 2.2h 2.3 6.16 2.2l 4.3 b.v 11.1 b.f x.9 v.7 2.e x.9 14.e 8x.533 1t.h3g ",
  "1w.19 3.7g 4.r l.1a 6.7 4.34 14.8 3.2u 3.29 l.k 2.w 9.5 b.1f d.1v 2 b.9 ",
  "p.5 4 2.19 6.y e.s 4.1e 2.b g.a 7.u 2.1i a.d 3.9 7.m 4.1w 2 2 p.2 3.f 3.3 ",
  "c.5 3.5 3.5 a.6 2.6 2.16 2.d 7.3e 6.9 7.8mb d.m 5.1c 6it.a5 3.2x 13.6 d.4 ",
  "6.b 2.c 2.4 2 2.1 2.1 2.2z i.ai j.3i y.b 39.4 2.3q k.9 8.p 7.p c.2g 4.5 ",
  "3.5 3.5 3.2 10.b 2.p 2.i 2.1 2.e 3.d z.3e d.18 d.1k i.1 6t.s 4.1c h.q 5.z ",
  "a.t 6.16 6.t 3.z 5.7 2.4 17.4d 3.9 7.z 5.z 5.13 9.1f d.a 2.e 2.6 2.1 2.a ",
  "2.e 2.6 2.1 4.1f d.8m a.l b.7 p.5 2.15 2.8 1y.5 3 2.17 2.1 4 3.m 3.u 3.11 ",
  "9.8 1d.i 2.1 6.w 5.p 7.p 13.1j 5.j 3.1d 2.1 6.7 2.2 2.s b.8 o.u 2.v x.7 ",
  "2.r 7.4 h.1h b.l 3.q 6.p o.6 29.20 1k.1e e.1e 8.19 9.9 7.11 9.n 9.1 5t.u ",
  "2.15 2.1 4.1 h.5 9.8 14.13 9.l c.3 s.h 1b.r l.m a.1x d.t 2.4 b.1k a e.o ",
  "8.9 7.1e 4.9 5.3 9.y 4 a.1r 2.3 a.c 2 5.j c.h 2.x 3 7.3 1r.6 2 2.3 2.e 2.9 ",
  "8.1k 8.9 7.3 2.7 3.1 3.l 2.6 2.1 2.4 4.7 3.1 3.1 4 7 6.6 t.9 2 3 2.11 2.3 ",
  "8 3 2.3 2.1 2 2 2.2 2.1 14.1t 2.2 2.3 6.9 6.2 v.1t 3.1 2 9.9 4n.1h 3.6 q.5 ",
  "z.1q 2 4 c.9 13.1h 3 8.9 7.j t.q 3.d 6.b 5.6 56.1k 2w.2a d.7 3 3.7 2.1 2.t ",
  "2.1 3.1 3.3 e.9 1z.7 3.19 3.5 2 2.1 s.1e 3.9 i.1z 6 j.20 2x 4 2 2h.x f.9 ",
  "7.8 2.18 2.6 2 g.s 6.t 3.l 2.d 22.6 2.1 2.17 4 2.1 2.2 2 3.1 9.9 7.5 2.1 ",
  "2.10 2.1 2.3 2 8.9 7.17 5.9 6v.m a.g 2.14 4.2 g.9 2f g.k 18.pl 2v.32 i.5f ",
  "219.2o g.tr i.5 q.32y 6.g6 5a2.t d.2 4.9 1c7.fs 8.u 2.9 7.26 2.9 7.t j.1b ",
  "h.3 d.9 2.6 2.k 6.i c1.1l 5j.2e a.o 3.o 19.22 5.1k 8.g 1t.1 2 d.6 a.5p1 ",
  "16.v 2q.36 6pq.3 2.6 2.1 2.82 g u.2 3 f.3 9.az 1s5.2y 6.c 4.8 8.9 5 31e.70 ",
  "4.c3 7.m g.g r4.j d.j 31.o 3s.2c 2.1y 2.1 3 3.1 3.3 2.b 2 2.6 2.1s 2.3 3.7 ",
  "2.6 2.r 2.3 2.4 2 4.6 2.9f 3.o 2.o 2.u 2.o 2.u 2.o 2.u 2.o 2.u 2.o 2.7 ",
  "3.1d 1dt.u 7.5 5y.6 2.g 3.6 2.1 2.4 6.1p y 35.18 b.6 3.9 5 8y.t j.17 5.9 ",
  "d3.r 5.9 5z.t 3.a 5 5d.u 2.2 2.1 2.6 3.4 a.1 69.6 2.3 2.1 2.e 2.5g 3.8 ",
  "1d.1v 4 4 5.9 m0.1m 2.2 2.3 25.18 2.e 5f.3 2.q 2.1 2 3 2.9 2.3 2 2 7 5 2 2 ",
  "2.2 2.1 2 3 2 2 2 2 2.1 2 3.3 2.6 2.3 2.3 2 2.9 2.g 6.2 2.4 2.g g5.c 10.p ",
  "7.p 7.p 21z.9 sn.wyn x.37d 7.65 3.4g1 f.5rk g.h9 1wj.f1 15v.3t6 6.6jt"]

/-- The letters and digits outside ASCII, as ranges. -/
def alphanumericSet : CodeSet := CodeSet.ofText alphanumericText

/-- Tells whether a character is a letter or a digit of some script. -/
def isAlphanumeric (c : Char) : Bool :=
  c.isAlphanum || alphanumericSet.contains c.toNat

end GraphCourier.Unicode
